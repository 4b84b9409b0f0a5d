import SiteClient.Proofs.Localized.Loading
import SiteClient.Proofs.Remote.Contracts
import SiteClient.Remote.CannedSite
/-!
# One text for each string

Lookups that share a cache may be interrupted at any access to it and at their round trips, while
the site answers the same string differently, or fails, from one round trip to the next. Still all
of them take one text for each string: the first that was stored, which stays.

What a lookup is answerable for is told by `duty`. It asks only while it has had no reply, so it
makes at most one round trip. If it ends with texts, these are what the cache has; if with an error,
it has had a reply, and the error is what was wrong with it. So the error for a string that has been
loaded and is not there is never its own: what other lookups store meanwhile can only add to what it
finds.
-/

namespace SiteClient.Localized

/-! ## The duty of a lookup -/

/-- What a lookup is answerable for: it asks once, for strings that it looks up and that are not
`barred`; its texts are those of the cache, and its error is that of the answer. -/
def duty (requests : List StringRequest) (barred : StringId → Prop) :
    Duty (Extends : StringCache → StringCache → Prop) (Except RemoteError (List Text)) :=
  fun past ↦ {
  guarantee := Extends
  sends := fun calls _ ↦ past = [] ∧ ∃ ids, calls = [loadCall ids] ∧ ids ≠ [] ∧ ids.Nodup ∧
    ids ⊆ idsOf requests ∧ ∀ id ∈ ids, ¬barred id
  ends := fun result cache ↦
    match result with
    | .ok found => (∀ id ∈ idsOf requests, (cache.lookup id).isSome) ∧ found = filled cache requests
    | .error e => ∃ ids result, past = [([loadCall ids], [result])] ∧ received ids result = .error e
  rely_of_guarantee := id
  ends_of_rely := fun {result _ _} hlater hends ↦
    match result, hends with
    | .ok _, ⟨hfound, hfilled⟩ =>
      ⟨fun id hid ↦ hlater.isSome (hfound id hid),
        hfilled.trans (filled_of_extends hfound hlater).symm⟩
    | .error _, hfailed => hfailed }

variable {requests : List StringRequest} {barred : StringId → Prop} {cache : StringCache}

theorem keeps_readTexts {past : List Reply} (h : ∀ id ∈ idsOf requests, (cache.lookup id).isSome) :
    (readTexts requests).Keeps (duty requests barred) past cache := by
  intro later hlater
  have hfound : ∀ id ∈ idsOf requests, (later.lookup id).isSome :=
    fun id hid ↦ hlater.isSome (h id hid)
  refine ⟨refl_of Extends later, ?_⟩
  simp only [mapM_fulfil hfound]
  exact ⟨hfound, rfl⟩

/-- A lookup does its duty, if all that is barred is in the cache by the start. -/
theorem keeps_lookup (hbarred : ∀ id, barred id → (cache.lookup id).isSome) :
    (lookup requests).Keeps (duty requests barred) [] cache := by
  rw [lookup_eq]
  intro later hlater
  refine ⟨refl_of Extends later, ?_⟩
  by_cases hnone : lacking later (idsOf requests) = []
  · simp only [if_pos hnone]
    exact keeps_readTexts (lacking_eq_nil.mp hnone)
  · simp only [if_neg hnone]
    refine ⟨⟨rfl, _, rfl, hnone, nodup_lacking _ _, fun id hid ↦ (mem_lacking.mp hid).1, ?_⟩, ?_⟩
    · intro id hid hbar
      have hsome := hlater.isSome (hbarred id hbar)
      rw [(mem_lacking.mp hid).2] at hsome
      exact absurd hsome (by simp)
    · intro results hlength
      obtain ⟨result, rfl⟩ := List.length_eq_one_iff.mp hlength
      simp only [List.headD_cons]
      cases hreceived : received (lacking later (idsOf requests)) result with
      | error e => exact ⟨_, result, rfl, hreceived⟩
      | ok texts =>
        -- Others have made `other` of the cache by the time the texts are stored.
        intro other hother
        refine ⟨extends_insertAll other _, keeps_readTexts ?_⟩
        exact isSome_insertAll_lacking hother (length_of_received hreceived)

/-! ## The error for a lost string -/

theorem ends_of_lostError {t : Text} {id : StringId} (h : .serialization t = lostError id) :
    t.head? = some 's' ∧ t.getLast? = some 'h' := by
  obtain rfl := RemoteError.serialization.inj h
  refine ⟨by simp, ?_⟩
  rw [List.getLast?_append]
  rfl

theorem entryText_ne_lostError (entry : Json) (id : StringId) :
    entryText entry ≠ .error (lostError id) := by
  intro h
  unfold entryText at h
  split at h
  · exact absurd h (by simp)
  · split at h
    · exact absurd h (by simp)
    · obtain ⟨-, hlast⟩ := ends_of_lostError (Except.error.inj h)
      exact absurd hlast (by decide)
  · obtain ⟨hhead, -⟩ := ends_of_lostError (Except.error.inj h)
    exact absurd hhead (by simp)

theorem mapM_entryText_ne_lostError (entries : List Json) (id : StringId) :
    entries.mapM entryText ≠ .error (lostError id) := by
  induction entries with
  | nil => simp [pure, Except.pure]
  | cons entry entries ih =>
    rw [List.mapM_cons]
    cases hentry : entryText entry with
    | error e =>
      have hne : (.error e : Except RemoteError Text) ≠ .error (lostError id) :=
        hentry ▸ entryText_ne_lostError entry id
      simpa [bind, Except.bind] using hne
    | ok text =>
      cases hrest : entries.mapM entryText with
      | error e => simpa [bind, Except.bind, hrest] using ih
      | ok texts => simp [bind, Except.bind, pure, Except.pure]

/-- Nothing that is wrong with an answer is told as a lost string. -/
theorem received_ne_lostError (ids : List StringId) (payload : Json) (id : StringId) :
    received ids (.ok payload) ≠ .error (lostError id) := by
  have htexts : texts payload ≠ .error (lostError id) := by
    unfold texts
    split
    · exact mapM_entryText_ne_lostError _ id
    · intro h
      obtain ⟨-, hlast⟩ := ends_of_lostError (Except.error.inj h)
      exact absurd hlast (by decide)
  intro h
  unfold received at h
  cases hfound : texts payload with
  | error e => exact htexts (hfound.trans (by simpa [bind, Except.bind, hfound] using h))
  | ok found =>
    simp only [bind, Except.bind, hfound] at h
    split at h
    · exact absurd h (by simp [pure, Except.pure])
    · obtain ⟨hhead, -⟩ := ends_of_lostError (Except.error.inj h)
      exact absurd hhead (by simp)

/-! ## Agreement -/

variable {ω : Type} {transport : Transport ω} {lookups : List (List StringRequest)}
  {pool : Pool ω StringCache (Except RemoteError (List Text))} {log : List Pool.Delivery}

/-- A lookup has ended with a text for a request. -/
def Returned (lookups : List (List StringRequest))
    (pool : Pool ω StringCache (Except RemoteError (List Text))) (r : StringRequest) (t : Text) :
    Prop :=
  ∃ (i : ℕ) (requests : List StringRequest) (found : List Text), lookups[i]? = some requests ∧
    pool.results[i]? = some (some (.ok found)) ∧ (r, t) ∈ requests.zip found

/-- What holds of lookups that share a cache, after the deliveries in `log` and whatever will
happen. -/
structure Sharing (transport : Transport ω) (lookups : List (List StringRequest))
    (log : List Pool.Delivery) (pool : Pool ω StringCache (Except RemoteError (List Text))) :
    Prop where
  /-- A text that is in the cache stays there. -/
  lasting : ∀ later, Pool.Reaches transport pool later → ∀ id text,
    pool.memory.get? id = some text → later.memory.get? id = some text
  /-- A lookup that succeeds has a text for each of its requests. -/
  complete : ∀ (i : ℕ) requests (found : List Text), lookups[i]? = some requests →
    pool.results[i]? = some (some (.ok found)) → found.length = requests.length
  /-- All texts ever returned for a string are one text, the stored one, filled for their
  requests. -/
  agreed : ∀ later, Pool.Reaches transport pool later → ∃ texts : StringId → Text,
    (∀ id text, pool.memory.get? id = some text → texts id = text) ∧
      ∀ r t, Returned lookups pool r t ∨ Returned lookups later r t →
        t = format (texts r.id) r.param
  /-- What a lookup asks for are strings of its requests, each once. -/
  asked : ∀ d ∈ log, ∃ requests ids, lookups[d.thread]? = some requests ∧ d.calls = [loadCall ids] ∧
    ids ≠ [] ∧ ids.Nodup ∧ ids ⊆ idsOf requests
  /-- A lookup makes at most one round trip. -/
  once : ∀ i, (log.filter fun d ↦ d.thread = i).length ≤ 1
  /-- A lookup that starts when a string is in the cache never asks for it. -/
  warm : ∀ (i : ℕ) requests id, pool.threads[i]? = some (.ready (lookup requests)) →
    (pool.memory.get? id).isSome → ∀ more later, Pool.Course transport pool more later →
      ∀ d ∈ more, d.thread = i → ∀ ids, d.calls = [loadCall ids] → id ∉ ids
  /-- An error that a lookup ends with is that of the answer to its call. -/
  failed : ∀ (i : ℕ) e, pool.results[i]? = some (some (.error e)) →
    ∃ ids result, ⟨i, [loadCall ids], [result]⟩ ∈ log ∧ received ids result = .error e
  /-- No lookup makes out that a string was lost: it passes such an error on at most. -/
  lost : ∀ (i : ℕ) id, pool.results[i]? = some (some (.error (lostError id))) →
    ∃ ids, ⟨i, [loadCall ids], [.error (lostError id)]⟩ ∈ log

/-- The duties of lookups by number, with nothing barred. -/
def duties (lookups : List (List StringRequest)) (i : ℕ) :
    Duty (Extends : StringCache → StringCache → Prop) (Except RemoteError (List Text)) :=
  duty ((lookups[i]?).getD []) fun _ ↦ False

theorem keeps_lookups (lookups : List (List StringRequest)) (memory : StringCache) (site : ω) :
    (Pool.start (lookups.map lookup) memory site).Keeps (duties lookups) fun _ ↦ [] := by
  refine Pool.keeps_start fun i job hjob ↦ ?_
  rw [List.getElem?_map, Option.map_eq_some_iff] at hjob
  obtain ⟨requests, hrequests, rfl⟩ := hjob
  rw [duties, hrequests]
  exact keeps_lookup fun _ ↦ False.elim

variable {past : ℕ → List Reply}

theorem eq_filled_of_done (hkeeps : pool.Keeps (duties lookups) past) {i : ℕ}
    (hrequests : lookups[i]? = some requests) {found : List Text}
    (hdone : pool.results[i]? = some (some (.ok found))) :
    (∀ id ∈ idsOf requests, (pool.memory.lookup id).isSome) ∧
      found = filled pool.memory requests := by
  have hends := hkeeps (Pool.threads_of_results hdone)
  rw [duties, hrequests] at hends
  exact hends

theorem Returned.eq_format (hkeeps : pool.Keeps (duties lookups) past)
    {r : StringRequest} {t : Text} (h : Returned lookups pool r t) :
    ∃ text, pool.memory.get? r.id = some text ∧ t = format text r.param := by
  obtain ⟨i, requests, found, hrequests, hdone, hmem⟩ := h
  obtain ⟨hfound, rfl⟩ := eq_filled_of_done hkeeps hrequests hdone
  obtain ⟨k, hk⟩ := List.mem_iff_getElem?.mp hmem
  obtain ⟨hr, ht⟩ := List.getElem?_zip_eq_some.mp hk
  obtain ⟨text, htext⟩ :=
    Option.isSome_iff_exists.mp (hfound r.id (List.mem_map_of_mem (List.mem_of_getElem? hr)))
  rw [filled, List.getElem?_map, hr, Option.map_some, Option.some_inj,
    StringCache.get?, htext] at ht
  exact ⟨text, htext, ht.symm⟩

theorem exists_of_failed (hkeeps : pool.Keeps (duties lookups) (Pool.repliesTo log)) {i : ℕ}
    {e : RemoteError} (hdone : pool.results[i]? = some (some (.error e))) :
    ∃ ids result, ⟨i, [loadCall ids], [result]⟩ ∈ log ∧ received ids result = .error e := by
  obtain ⟨ids, result, hpast, hreceived⟩ := hkeeps (Pool.threads_of_results hdone)
  have hreply : ([loadCall ids], [result]) ∈ Pool.repliesTo log i := by
    simp only [hpast, List.mem_singleton]
  exact ⟨ids, result, Pool.mem_repliesTo.mp hreply, hreceived⟩

/-- From its start on, a lookup has a duty that bars a string of the cache. -/
theorem keeps_barring (hkeeps : pool.Keeps (duties lookups) past) {i : ℕ}
    (hthread : pool.threads[i]? = some (.ready (lookup requests))) {id : StringId}
    (hid : (pool.memory.get? id).isSome) :
    pool.Keeps (Function.update (duties lookups) i (duty requests (· = id)))
      (Function.update past i []) := by
  refine hkeeps.update fun thread h ↦ ?_
  obtain rfl := Option.some.inj (hthread.symm.trans h)
  exact keeps_lookup (by rintro _ rfl; exact hid)

/-- **Lookups agree on the text of each string**, however they are interleaved and whatever the site
answers, turns into or fails with. Each asks at most once, for what was not in the cache when it
started, and none finds a string gone that has been loaded. -/
theorem lookups_agree {memory : StringCache} {site : ω}
    (h : Pool.Course transport (Pool.start (lookups.map lookup) memory site) log pool) :
    Sharing transport lookups log pool := by
  obtain ⟨-, hkeeps, hsent⟩ := (keeps_lookups lookups memory site).course h
  simp only [List.nil_append] at hkeeps hsent
  refine ⟨?lasting, ?complete, ?agreed, ?asked, ?once, ?warm,
    fun _ _ ↦ exists_of_failed hkeeps, ?lost⟩
  case lasting =>
    intro later hlater id text hid
    obtain ⟨more, hmore⟩ := Pool.exists_course hlater
    exact (hkeeps.course hmore).1 hid
  case complete =>
    intro i requests found hrequests hdone
    rw [(eq_filled_of_done hkeeps hrequests hdone).2]
    exact List.length_map _
  case agreed =>
    intro later hlater
    obtain ⟨more, hmore⟩ := Pool.exists_course hlater
    obtain ⟨hextends, hkeeps', -⟩ := hkeeps.course hmore
    have htext {id : StringId} {text : Text} (hid : later.memory.get? id = some text) :
        (later.memory.get? id).getD [] = text := by rw [hid, Option.getD_some]
    refine ⟨fun id ↦ (later.memory.get? id).getD [], fun id text hid ↦ htext (hextends hid), ?_⟩
    rintro r t (hreturned | hreturned)
    · obtain ⟨text, hid, rfl⟩ := hreturned.eq_format hkeeps
      exact congrArg (format · r.param) (htext (hextends hid)).symm
    · obtain ⟨text, hid, rfl⟩ := hreturned.eq_format hkeeps'
      exact congrArg (format · r.param) (htext hid).symm
  case asked =>
    intro d hd
    obtain ⟨_, _, -, ids, hcalls, hne, hnodup, hsubset, -⟩ :=
      (keeps_lookups lookups memory site).sends_of_mem h hd
    cases hrequests : lookups[d.thread]? with
    | none =>
      rw [hrequests] at hsubset
      exact absurd (List.subset_nil.mp hsubset) hne
    | some requests =>
      rw [hrequests] at hsubset
      exact ⟨requests, ids, rfl, hcalls, hne, hnodup, hsubset⟩
  case once =>
    intro i
    have hreplies : (Pool.repliesTo log i).length ≤ 1 := by
      refine Pool.length_repliesTo_le (fun front d hd ↦ ?_) i
      obtain ⟨_, hnone, -⟩ := hsent front d hd
      exact hnone
    rwa [Pool.repliesTo, List.length_map] at hreplies
  case warm =>
    intro i requests id hthread hid more later hmore d hd hi ids hcalls hmem
    obtain ⟨_, _, hsends⟩ := (keeps_barring hkeeps hthread hid).sends_of_mem hmore hd
    rw [hi, Function.update_self] at hsends
    obtain ⟨-, others, hothers, -, -, -, hfree⟩ := hsends
    obtain rfl : ids = others := loadCall_inj (List.singleton_inj.mp (hcalls.symm.trans hothers))
    exact hfree id hmem rfl
  case lost =>
    intro i id hdone
    obtain ⟨ids, result, hmem, hreceived⟩ := exists_of_failed hkeeps hdone
    cases result with
    | error e =>
      obtain rfl : e = lostError id := by simpa [received, bind, Except.bind] using hreceived
      exact ⟨ids, hmem⟩
    | ok payload => exact absurd hreceived (received_ne_lostError ids payload id)

/-- Three lookups, two of them of one string with different parameters. -/
def tiles : List (List StringRequest) :=
  [[⟨"tile".toList, "core".toList, some (.string "x".toList)⟩],
    [⟨"tile".toList, "core".toList, some (.string "y".toList)⟩,
      ⟨"tile".toList, "core".toList, none⟩],
    [⟨"lost".toList, "core".toList, none⟩]]

/-- A site that answers the same string differently, and the last time not with a list. -/
def tilesSite : CannedSite where
  replies := [
    .ok (Wire.encodeResponses [.success (.array [.string "A({$a})".toList])]),
    .ok (Wire.encodeResponses [.success (.array [.string "B({$a})".toList])]),
    .ok (Wire.encodeResponses [.success .null])]

/-- The first two lookups miss the same string; the answer to the first arrives first and is stored
last. -/
def tilesEvents : List Pool.Event :=
  [.poll 0, .poll 1, .poll 2, .deliver 0, .deliver 1, .poll 1, .poll 0, .deliver 2, .poll 2]

theorem lookups_agree_of_tiles :
    Returned tiles
      (Pool.run CannedSite.transport (Pool.start (tiles.map lookup) [] tilesSite) tilesEvents)
      ⟨"tile".toList, "core".toList, some (.string "x".toList)⟩ "B(x)".toList ∧
    Sharing CannedSite.transport tiles
      (Pool.deliveries CannedSite.transport
        (Pool.start (tiles.map lookup) [] tilesSite) tilesEvents)
      (Pool.run CannedSite.transport (Pool.start (tiles.map lookup) [] tilesSite) tilesEvents) := by
  refine ⟨⟨0, _, ["B(x)".toList], rfl, ?_, ?_⟩, lookups_agree (Pool.course_run _ _)⟩
  · decide +kernel
  · decide +kernel

end SiteClient.Localized
