import SiteClient.Proofs.Localized.Loading
import SiteClient.Proofs.Render.Answers
/-!
# Strings of a site that always answers alike

What is in the cache of strings is what the site would answer now (`SiteAnswers.KnownStrings`), so a
lookup comes to the texts that the answers have, filled with the parameters of the requests, and the
cache stays true. A lookup asks only for what the cache lacks; by the time it reads its texts, the
cache lacks none.
-/

namespace SiteClient.SiteAnswers

open LocalSite (transport Answers)
open Localized

variable {σ : Type} {answers : SiteAnswers} {site : LocalSite σ}

/-! ## The round trip -/

/-- The entry that asks for a string. -/
def wanted (id : StringId) : Json :=
  .ofFields [("stringid".toList, .string id.key), ("component".toList, .string id.component)]

def text (answers : SiteAnswers) (id : StringId) : Text :=
  (answers.string (wanted id)).value

def filled (answers : SiteAnswers) (requests : List StringRequest) : List Text :=
  requests.map fun r ↦ format (answers.text r.id) r.param

/-- The site gives the answers, and the strings in the cache are from them. -/
def KnownStrings (answers : SiteAnswers) (cache : StringCache) (site : LocalSite σ) : Prop :=
  (∀ id text, cache.get? id = some text → answers.text id = text) ∧ answers.GivenBy site

theorem portable_wanted (id : StringId) : (wanted id).Portable 1 := by
  have hfields : wanted id = .object
      [("component".toList, .string id.component), ("stringid".toList, .string id.key)] := rfl
  have hkeys : "component".toList < "stringid".toList := by decide
  rw [hfields]
  refine Json.portable_object (by simpa using hkeys) fun field hfield ↦ ?_
  obtain rfl | hfield := List.mem_cons.1 hfield
  · exact Json.portable_string id.component 0
  · obtain rfl := List.mem_singleton.1 hfield
    exact Json.portable_string id.key 0

theorem portable_loadStrings (ids : List StringId) :
    (Json.object (loadCall ids).args).Portable 125 := by
  have hargs : (loadCall ids).args = [("strings".toList, .array (ids.map wanted))] := rfl
  have hids : (Json.array (ids.map wanted)).Portable 2 := by
    refine Json.portable_array fun v hv ↦ ?_
    obtain ⟨id, -, rfl⟩ := List.mem_map.1 hv
    exact portable_wanted id
  rw [hargs]
  refine Json.portable_object (List.pairwise_singleton _ _) fun field hfield ↦ ?_
  obtain rfl := List.mem_singleton.1 hfield
  exact hids.mono (by decide)

def entries (answers : SiteAnswers) (ids : List StringId) : Json :=
  .array ((ids.map wanted).map fun entry ↦ (answers.string entry).toJson)

theorem GivenBy.exchange_strings (h : answers.GivenBy site) (ids : List StringId) :
    (transport.exchange [loadCall ids] site).1 = [.ok (answers.entries ids)] ∧
      answers.GivenBy (transport.exchange [loadCall ids] site).2 := by
  have hportable : ∀ call ∈ [loadCall ids], (Json.object call.args).Portable 125 := by
    simpa using portable_loadStrings ids
  have hanswers : ∀ call ∈ [loadCall ids],
      Answers site.handlers call (.ok (answers.entries ids)) := by
    intro call hcall memory
    obtain rfl := List.mem_singleton.1 hcall
    have hget : (loadCall ids).args.get? "strings".toList = some (.array (ids.map wanted)) := rfl
    exact h.string (loadCall ids).args (ids.map wanted) memory hget
  have hentries : ∀ call ∈ [loadCall ids], ∀ v : Json,
      (.ok (answers.entries ids) : Except RemoteException Json) = .ok v → v.Portable 125 := by
    rintro _ _ _ ⟨⟩
    refine (Json.portable_array fun v hv ↦ ?_).mono (show 2 ≤ 125 by decide)
    obtain ⟨entry, -, rfl⟩ := List.mem_map.1 hv
    exact (answers.string entry).portable_toJson
  obtain ⟨hresults, hhandlers, hworks⟩ := LocalSite.exchange_of_answers
    (List.cons_ne_nil (loadCall ids) []) hportable h.works hanswers hentries
  exact ⟨hresults, h.of_handlers hhandlers hworks⟩

theorem received_entries (ids : List StringId) :
    received ids (.ok (answers.entries ids)) = .ok (ids.map answers.text) := by
  have htexts : texts (answers.entries ids) = .ok (ids.map answers.text) := by
    rw [entries, texts, List.map_map]
    induction ids with
    | nil => rfl
    | cons id ids ih =>
      rw [List.map_cons, List.mapM_cons, Function.comp_apply, StringAnswer.entryText_toJson, ih]
      rfl
  rw [received]
  simp only [bind, Except.bind, htexts, List.length_map, if_true]
  rfl

theorem knownStrings_store {cache : StringCache} (h : answers.KnownStrings cache site)
    (id : StringId) : answers.KnownStrings (cache.store id (answers.text id)) site := by
  refine ⟨fun other text hother ↦ ?_, h.2⟩
  obtain rfl | hne := eq_or_ne other id
  · have hself : (cache.store other (answers.text other)).get? other =
        some ((cache.get? other).getD (answers.text other)) :=
      lookup_insertNew_self cache other (answers.text other)
    rw [hself] at hother
    cases hcached : cache.get? other with
    | none => rwa [hcached, Option.getD_none, Option.some_inj] at hother
    | some stored =>
      rw [hcached, Option.getD_some, Option.some_inj] at hother
      exact hother ▸ h.1 other stored hcached
  · have hsame : (cache.store id (answers.text id)).get? other = cache.get? other :=
      lookup_insertNew_of_ne cache (answers.text id) hne
    exact h.1 other text (hsame ▸ hother)

theorem knownStrings_insertAll {cache : StringCache} (h : answers.KnownStrings cache site)
    (ids : List StringId) :
    answers.KnownStrings (insertAll cache (ids.zip (ids.map answers.text))) site := by
  induction ids generalizing cache with
  | nil => exact h
  | cons id ids ih => exact ih (knownStrings_store h id)

/-- The strings of the requests are in the cache. -/
def Loaded (answers : SiteAnswers) (requests : List StringRequest) (cache : StringCache)
    (site : LocalSite σ) : Prop :=
  answers.KnownStrings cache site ∧ ∀ id ∈ idsOf requests, (cache.lookup id).isSome

theorem yields_loadMissing (requests : List StringRequest) :
    (loadMissing requests).Yields (transport : Transport (LocalSite σ)) answers.KnownStrings
      (.ok ()) (answers.Loaded requests) := by
  rw [loadMissing_eq]
  refine Job.yields_access fun cache site hknown ↦ ?_
  split
  · rename_i hnone
    exact Job.yields_pure.here ⟨hknown, lacking_eq_nil.mp hnone⟩
  · have hstore : (storeReceived (lacking cache (idsOf requests))
        (received (lacking cache (idsOf requests))
          (List.headD [.ok (answers.entries (lacking cache (idsOf requests)))]
            (.error .dropped)))).Yields
        (transport : Transport (LocalSite σ))
          (fun cache' site' ↦ cache' = cache ∧ answers.GivenBy site')
        (.ok ()) (answers.Loaded requests) := by
      rw [List.headD_cons, received_entries]
      refine Job.yields_access ?_
      rintro _ site' ⟨rfl, hgiven⟩
      refine Job.yields_pure.here ⟨knownStrings_insertAll ⟨hknown.1, hgiven⟩ _, ?_⟩
      exact isSome_insertAll_lacking (refl_of Extends _) (List.length_map answers.text)
    -- The cache is the same after the round trip: no other job runs meanwhile.
    refine Job.yields_request ?_ hstore
    rintro _ _ ⟨rfl, rfl⟩
    obtain ⟨hresults, hgiven⟩ := hknown.2.exchange_strings (lacking _ (idsOf requests))
    exact ⟨hresults, rfl, hgiven⟩

theorem filled_of_loaded {cache : StringCache} {requests : List StringRequest}
    (h : answers.Loaded requests cache site) :
    Localized.filled cache requests = answers.filled requests := by
  refine List.map_congr_left fun r hr ↦ ?_
  obtain ⟨text, htext⟩ := Option.isSome_iff_exists.mp (h.2 r.id (List.mem_map_of_mem hr))
  rw [StringCache.get?, htext, h.1.1 r.id text htext, Option.getD_some]

/-- **Looking up strings comes to their texts**, filled with the parameters, whatever the cache
has. -/
theorem yields_lookup (requests : List StringRequest) :
    (lookup requests).Yields (transport : Transport (LocalSite σ)) answers.KnownStrings
      (.ok (answers.filled requests)) answers.KnownStrings := by
  refine (yields_loadMissing requests).bind ?_
  refine Job.yields_access fun cache site hloaded ↦ ?_
  change (Job.pure (requests.mapM (fulfil cache))).Yields _ _ _ _
  rw [mapM_fulfil hloaded.2, filled_of_loaded hloaded]
  exact Job.yields_pure.here hloaded.1

end SiteClient.SiteAnswers
