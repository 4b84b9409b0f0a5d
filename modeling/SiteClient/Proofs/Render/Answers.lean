import SiteClient.Localized.Loader
import SiteClient.Proofs.Remote.LocalExchange
import SiteClient.Proofs.Remote.Running
import SiteClient.Proofs.Render.Agreement
/-!
# Templates of a site that always answers alike

The answers of a site are *given* if its template handler depends on its arguments only and its
string handler answers entry by entry (`SiteAnswers.GivenBy`). Then what is in the cache is what the
site would answer now (`SiteAnswers.Known`), so resolving names comes to results that the answers
alone decide, and the cache stays true.

A warm cache asks for less than a cold one, and the first exception ends a batch. Still the error is
the same: only names with a source are ever in the cache, so the first name without one is the first
that fails, in any batch (`findSome?_failure?_of_plan`).
-/

namespace SiteClient

open LocalSite (transport Answers cutOff)

/-- What a site answers for one localized string: its text, or a record with the text. -/
inductive StringAnswer where
  | text (t : Text)
  | record (t : Text)

namespace StringAnswer

/-- The answer as it stands in the list of answers. -/
def toJson : StringAnswer → Json
  | .text t => .string t
  | .record t => .object [("string".toList, .string t)]

def value : StringAnswer → Text
  | .text t | .record t => t

theorem entryText_toJson (a : StringAnswer) : Localized.entryText a.toJson = .ok a.value := by
  cases a <;> rfl

theorem portable_toJson (a : StringAnswer) : a.toJson.Portable 1 := by
  cases a with
  | text t => exact Json.portable_string t 1
  | record t =>
    refine Json.portable_object (List.pairwise_singleton _ _) fun field hfield ↦ ?_
    obtain rfl := List.mem_singleton.1 hfield
    exact Json.portable_string t 0

end StringAnswer

/-- What a site answers, as far as pages depend on it. -/
structure SiteAnswers where
  /-- The source of the template that the arguments name. -/
  template : Fields → Except RemoteException Text
  /-- The string that an entry of the arguments names. -/
  string : Json → StringAnswer

namespace SiteAnswers

variable {σ : Type} {answers : SiteAnswers} {site : LocalSite σ}

/-- The handlers of the site give these answers. They may keep a state, but no answer depends on
it. -/
structure GivenBy (answers : SiteAnswers) (site : LocalSite σ) : Prop where
  works : site.failure = none
  template : ∀ args memory,
    (LocalSite.invoke site.handlers TemplateCache.method args memory).1 =
      (answers.template args).map .string
  string : ∀ args wanted memory, args.get? "strings".toList = some (.array wanted) →
    (LocalSite.invoke site.handlers Localized.method args memory).1 =
      .ok (.array (wanted.map fun w ↦ (answers.string w).toJson))

theorem GivenBy.of_handlers {later : LocalSite σ} (h : answers.GivenBy site)
    (hhandlers : later.handlers = site.handlers) (hworks : later.failure = none) :
    answers.GivenBy later where
  works := hworks
  template := hhandlers ▸ h.template
  string := hhandlers ▸ h.string

/-! ## Templates -/

open TemplateCache

/-- The source of a template, if the site has one. -/
def source (answers : SiteAnswers) (name : Text) : Except RenderError Text :=
  match splitName name with
  | .error e => .error e
  | .ok (component, template) =>
    (answers.template (loadCall component template).args).mapError fun e ↦ .remote (.exception e)

/-- The sources of templates; the first name that is none is reported before the first without
source. -/
def sources (answers : SiteAnswers) (names : List Text) : Except RenderError (List Text) :=
  (names.mapM splitName).bind fun _ ↦ names.mapM answers.source

/-- The site gives the answers, and what is in the cache is from them. -/
def Known (answers : SiteAnswers) (cache : TemplateCache) (site : LocalSite σ) : Prop :=
  (∀ name source, cache.get? name = some source → answers.source name = .ok source) ∧
    answers.GivenBy site

theorem portable_loadCall (component template : Text) :
    (Json.object (loadCall component template).args).Portable 125 := by
  have hargs : (loadCall component template).args =
      [("component".toList, .string component), ("template".toList, .string template)] := rfl
  have hkeys : "component".toList < "template".toList := by decide
  rw [hargs]
  refine Json.portable_object (by simpa using hkeys) fun field hfield ↦ ?_
  obtain rfl | hfield := List.mem_cons.1 hfield
  · exact Json.portable_string component 124
  · obtain rfl := List.mem_singleton.1 hfield
    exact Json.portable_string template 124

theorem source_of_call? (answers : SiteAnswers) {name : Text} {call : Call}
    (h : call? name = some call) :
    call.method = TemplateCache.method ∧ (Json.object call.args).Portable 125 ∧
      answers.source name =
        (answers.template call.args).mapError fun e ↦ .remote (.exception e) := by
  unfold call? at h
  split at h
  · rename_i component template hsplit
    obtain rfl := Option.some.inj h
    exact ⟨rfl, portable_loadCall component template, by rw [source, hsplit]⟩
  · exact absurd h (by simp)

/-- What calls for templates bring. -/
def fetched (answers : SiteAnswers) (calls : List Call) : List CallResult :=
  cutOff (calls.map fun call ↦ (answers.template call.args).map .string)

theorem GivenBy.exchange_templates (h : answers.GivenBy site) {asked : List Text}
    {calls : List Call} (hne : calls ≠ []) (hcalls : asked.map call? = calls.map some) :
    (transport.exchange calls site).1 = answers.fetched calls ∧
      answers.GivenBy (transport.exchange calls site).2 := by
  have hcall : ∀ call ∈ calls, ∃ name, call? name = some call := by
    intro call hmem
    have hsome : some call ∈ asked.map call? := hcalls ▸ List.mem_map_of_mem hmem
    obtain ⟨name, -, hname⟩ := List.mem_map.1 hsome
    exact ⟨name, hname⟩
  have hportable : ∀ call ∈ calls, (Json.object call.args).Portable 125 := by
    intro call hmem
    obtain ⟨name, hname⟩ := hcall call hmem
    exact (answers.source_of_call? hname).2.1
  have hanswers : ∀ call ∈ calls,
      Answers site.handlers call ((answers.template call.args).map .string) := by
    intro call hmem memory
    obtain ⟨name, hname⟩ := hcall call hmem
    rw [(answers.source_of_call? hname).1]
    exact h.template call.args memory
  have hstrings : ∀ call ∈ calls, ∀ v : Json,
      (answers.template call.args).map Json.string = .ok v → v.Portable 125 := by
    intro call _ v hv
    cases htemplate : answers.template call.args with
    | error e => exact absurd (htemplate ▸ hv) (by simp [Except.map])
    | ok source =>
      rw [htemplate] at hv
      obtain rfl := Except.ok.inj hv
      exact Json.portable_string source 125
  obtain ⟨hresults, hhandlers, hworks⟩ :=
    LocalSite.exchange_of_answers hne hportable h.works hanswers hstrings
  exact ⟨hresults, h.of_handlers hhandlers hworks⟩

theorem known_store {cache : TemplateCache} (h : answers.Known cache site) {name text : Text}
    (hname : answers.source name = .ok text) :
    answers.Known (store cache name text) site ∧ (store cache name text).get? name = some text := by
  have hfirst : (cache.get? name).getD text = text := by
    cases hcached : cache.get? name with
    | none => rfl
    | some stored => exact Except.ok.inj ((h.1 name stored hcached).symm.trans hname)
  have hself : (store cache name text).get? name = some text :=
    (lookup_insertNew_self cache name text).trans (congrArg some hfirst)
  refine ⟨⟨fun other stored hother ↦ ?_, h.2⟩, hself⟩
  obtain rfl | hne := eq_or_ne other name
  · rw [← Option.some.inj (hself.symm.trans hother), hname]
  · have hsame : (store cache name text).get? other = cache.get? other :=
      lookup_insertNew_of_ne cache text hne
    exact h.1 other stored (hsame ▸ hother)

variable {β : Type} {b : β}

theorem yields_keepAll {post : TemplateCache → LocalSite σ → Prop} {asked : List Text}
    {calls : List Call} (hcalls : asked.map call? = calls.map some)
    {f : Except RenderError (List Text) → Job TemplateCache β}
    (hf : (f (asked.mapM answers.source)).Yields transport answers.Known b post) :
    ((keepAll asked (answers.fetched calls)).bind f).Yields transport answers.Known b post := by
  induction asked generalizing calls f with
  | nil =>
    obtain rfl : calls = [] := by simpa using hcalls.symm
    exact hf
  | cons name asked ih =>
    obtain ⟨call, calls, rfl⟩ :=
      List.exists_cons_of_ne_nil (show calls ≠ [] by rintro rfl; simp at hcalls)
    rw [List.map_cons, List.map_cons, List.cons.injEq] at hcalls
    obtain ⟨-, -, hsource⟩ := answers.source_of_call? hcalls.1
    rw [List.mapM_cons, hsource] at hf
    rw [fetched, List.map_cons]
    cases htemplate : answers.template call.args with
    | error e =>
      -- The answers behind an exception are cut off, and nothing of them is kept.
      rw [htemplate] at hf
      rw [Except.map, cutOff, List.replicate_succ, keepAll_bind_of_error rfl]
      exact hf
    | ok text =>
      rw [htemplate] at hf hsource
      rw [Except.map, cutOff, keepAll_bind_of_ok rfl]
      refine Job.yields_access fun cache site hknown ↦ ?_
      obtain ⟨hstore, hself⟩ := known_store hknown hsource
      rw [hself, Option.getD_some]
      refine (ih hcalls.2 ?_).here hstore
      cases hasked : asked.mapM answers.source with
      | error e =>
        rw [hasked] at hf
        exact hf
      | ok found =>
        rw [hasked] at hf
        exact hf

theorem yields_fetch {post : TemplateCache → LocalSite σ → Prop} {asked : List Text}
    (hasked : ∀ name ∈ asked, (call? name).isSome)
    {f : Except RenderError (List Text) → Job TemplateCache β}
    (hf : (f (asked.mapM answers.source)).Yields transport answers.Known b post) :
    ((fetch asked).bind f).Yields transport answers.Known b post := by
  obtain rfl | hne := eq_or_ne asked []
  · exact hf
  · obtain ⟨calls, hcalls⟩ := exists_calls hasked
    have hcalls_ne : calls ≠ [] := by
      rintro rfl
      exact hne (List.map_eq_nil_iff.1 hcalls)
    rw [fetch_bind hne hcalls]
    refine Job.yields_request (fun cache site hknown ↦ ?_) (yields_keepAll hcalls hf)
    obtain ⟨hresults, hgiven⟩ := hknown.2.exchange_templates hcalls_ne hcalls
    exact ⟨hresults, hknown.1, hgiven⟩

/-- **Resolving a name comes to its source**, whatever the cache has. -/
theorem yields_resolve (name : Text) :
    (resolve name).Yields (transport : Transport (LocalSite σ)) answers.Known (answers.source name)
      answers.Known := by
  cases hsplit : splitName name with
  | error e =>
    rw [resolve, source, hsplit]
    exact Job.yields_pure
  | ok parts =>
    rw [resolve_eq hsplit]
    refine Job.yields_access fun cache site hknown ↦ ?_
    cases hname : cache.get? name with
    | some stored =>
      rw [hknown.1 name stored hname]
      exact Job.yields_pure.here hknown
    | none =>
      refine (yields_fetch (by simpa using isSome_call? hsplit) ?_).here hknown
      have hsingle : ([name].mapM answers.source).map (fun found ↦ found.getLastD []) =
          answers.source name := by
        rw [List.mapM_cons, List.mapM_nil]
        cases answers.source name <;> rfl
      rw [hsingle]
      exact Job.yields_pure

/-! ### The first name without a source -/

/-- Why a template has no source. -/
def failure? (answers : SiteAnswers) (name : Text) : Option RenderError :=
  match answers.source name with
  | .error e => some e
  | .ok _ => none

theorem failure?_eq_none {name source : Text} (h : answers.source name = .ok source) :
    answers.failure? name = none := by
  rw [failure?, h]

theorem findSome?_failure? (names : List Text) :
    names.findSome? answers.failure? =
      match names.mapM answers.source with
      | .error e => some e
      | .ok _ => none := by
  induction names with
  | nil => rfl
  | cons name names ih =>
    rw [List.findSome?_cons, List.mapM_cons, failure?]
    cases answers.source name with
    | error e => rfl
    | ok source =>
      simp only [ih, bind, Except.bind]
      cases names.mapM answers.source <;> rfl

/-- Names left out of a batch because they are in the cache, or in the batch already, do not change
which name is the first without a source. -/
theorem findSome?_failure?_of_plan {cache : TemplateCache}
    (hcache : ∀ name source, cache.get? name = some source → answers.source name = .ok source)
    {started names missing : List Text} {places : List Place}
    (h : cache.plan started names = .ok (places, missing)) :
    missing.findSome? answers.failure? =
      (started.findSome? answers.failure?).or (names.findSome? answers.failure?) := by
  induction names generalizing started places with
  | nil =>
    obtain ⟨-, rfl⟩ := Prod.mk.inj (Except.ok.inj h)
    rw [List.findSome?_nil, Option.or_none]
  | cons name names ih =>
    obtain ⟨parts, place, rest, -, rfl, hplace⟩ := plan_cons h
    rw [List.findSome?_cons]
    obtain ⟨source, hget, -, hplan⟩ | ⟨more, rfl, -, -, hplan⟩ := hplace
    · rw [ih hplan, failure?_eq_none (hcache name source hget)]
    · rw [ih hplan]
      split
      · rename_i hstarted
        -- Left out because it is in the batch: what it fails with, the batch fails with already.
        cases hname : answers.failure? name with
        | none => rfl
        | some e =>
          have hearlier : (started.findSome? answers.failure?).isSome :=
            List.findSome?_isSome_iff.2 ⟨name, hstarted, Option.isSome_iff_exists.2 ⟨e, hname⟩⟩
          obtain ⟨e', he'⟩ := Option.isSome_iff_exists.1 hearlier
          rw [he', Option.some_or, Option.some_or]
      · rw [List.findSome?_append, Option.or_assoc, List.findSome?_singleton]
        cases answers.failure? name <;> rfl

theorem source_of_mapM {names found : List Text} (h : names.mapM answers.source = .ok found)
    {index : ℕ} {name : Text} (hname : names[index]? = some name) :
    answers.source name = .ok (found.getD index []) := by
  induction names generalizing found index with
  | nil => exact absurd hname (by simp)
  | cons other names ih =>
    rw [List.mapM_cons] at h
    cases hother : answers.source other with
    | error e => exact absurd (hother ▸ h) (by simp [bind, Except.bind])
    | ok source =>
      cases hnames : names.mapM answers.source with
      | error e => exact absurd (hnames ▸ hother ▸ h) (by simp [bind, Except.bind])
      | ok rest =>
        rw [hother, hnames] at h
        obtain rfl : source :: rest = found := Except.ok.inj h
        cases index with
        | zero =>
          obtain rfl : other = name := Option.some.inj hname
          exact hother
        | succ index => exact ih hnames hname

theorem map_fetched_of_plan {cache : TemplateCache}
    (hcache : ∀ name source, cache.get? name = some source → answers.source name = .ok source)
    {names missing : List Text} {places : List Place}
    (h : cache.plan [] names = .ok (places, missing)) :
    (missing.mapM answers.source).map (fun found ↦ places.map (Place.source found)) =
      names.mapM answers.source := by
  have hfirst := findSome?_failure?_of_plan hcache h
  rw [List.findSome?_nil, Option.none_or, findSome?_failure?, findSome?_failure?] at hfirst
  cases hmissing : missing.mapM answers.source with
  | error e =>
    rw [hmissing] at hfirst
    cases hnames : names.mapM answers.source with
    | error e' =>
      rw [hnames] at hfirst
      rw [Except.map, Option.some.inj hfirst]
    | ok sources =>
      rw [hnames] at hfirst
      exact absurd hfirst (by simp)
  | ok found =>
    have hsource {name : Text} {place : Place} (hplace : place.Holds cache missing name) :
        answers.source name = .ok (place.source found) := by
      cases hplace with
      | stored hname => exact hcache name _ hname
      | fetched hname => exact source_of_mapM hmissing hname
    have hplaces := (planned_of_plan h).2
    clear h hfirst
    induction hplaces with
    | nil => rfl
    | cons hplace _ ih =>
      rw [List.mapM_cons, hsource hplace, ← ih]
      rfl

/-- **Resolving names comes to their sources**, whatever the cache has. -/
theorem yields_resolveMany (names : List Text) :
    (resolveMany names).Yields (transport : Transport (LocalSite σ)) answers.Known
      (answers.sources names) answers.Known := by
  rw [resolveMany_eq]
  refine Job.yields_access fun cache site hknown ↦ ?_
  have hsplit := map_plan cache [] names
  cases hplan : cache.plan [] names with
  | error e =>
    rw [hplan] at hsplit
    cases hnames : names.mapM splitName with
    | error e' =>
      rw [hnames] at hsplit
      rw [sources, hnames, Except.error.inj hsplit]
      exact Job.yields_pure.here hknown
    | ok parts => exact absurd (hnames ▸ hsplit) (by simp [Except.map])
  | ok planned =>
    obtain ⟨places, missing⟩ := planned
    obtain ⟨hfetchable, -⟩ := planned_of_plan hplan
    refine (yields_fetch hfetchable.callable ?_).here hknown
    rw [map_fetched_of_plan hknown.1 hplan]
    rw [hplan] at hsplit
    cases hnames : names.mapM splitName with
    | error e => exact absurd (hnames ▸ hsplit) (by simp [Except.map])
    | ok parts =>
      rw [sources, hnames]
      exact Job.yields_pure

end SiteAnswers
end SiteClient
