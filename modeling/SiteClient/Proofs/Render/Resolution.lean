import SiteClient.Proofs.Remote.RoundTrips
import SiteClient.Proofs.Render.Agreement
/-!
# Resolving names from end to end

When no other job uses the cache, what a resolution comes to is settled by its one reply. The names
that the cache lacks, each once, are fetched together, and of the results those in front of the
first failure are kept. A plan that mixes stored, missing and repeated names finds each source again
at its place, since a missing name keeps its place among those to fetch (`plan_spec`).

`Resolution` says all of this about one cache, one list of names and one site.
-/

namespace SiteClient.TemplateCache

/-! ## Names -/

/-- A name `component/template`, cut at its first slash. -/
def IsName (name : Text) : Prop :=
  ∃ component template : Text, component ≠ [] ∧ template ≠ [] ∧ '/' ∉ component ∧
    name = component ++ '/' :: template

theorem splitName_eq_ok_iff {name component template : Text} :
    splitName name = .ok (component, template) ↔ component ≠ [] ∧ template ≠ [] ∧ '/' ∉ component ∧
      name = component ++ '/' :: template := by
  constructor
  · intro h
    have hname := eq_of_splitName h
    unfold splitName at h
    split at h
    · rename_i hbreak
      obtain ⟨rfl, rfl⟩ := Prod.mk.inj (Except.ok.inj h)
      exact ⟨List.cons_ne_nil _ _, List.cons_ne_nil _ _, Text.not_mem_of_breakOn hbreak, hname⟩
    · exact absurd h (by simp)
  · rintro ⟨hcomponent, htemplate, hslash, rfl⟩
    have hbreak := Text.breakOn_append_cons hslash template
    obtain ⟨c, component, rfl⟩ := List.exists_cons_of_ne_nil hcomponent
    obtain ⟨t, template, rfl⟩ := List.exists_cons_of_ne_nil htemplate
    rw [splitName, hbreak]

theorem isName_iff {name : Text} : IsName name ↔ ∃ parts, splitName name = .ok parts := by
  simp only [IsName, Prod.exists, splitName_eq_ok_iff]

theorem splitName_of_not_isName {name : Text} (h : ¬IsName name) :
    splitName name = .error (.templateName name) := by
  cases hsplit : splitName name with
  | ok parts => exact absurd (isName_iff.mpr ⟨parts, hsplit⟩) h
  | error e =>
    unfold splitName at hsplit
    split at hsplit
    · cases hsplit
    · rw [← hsplit]

/-- The call asks for the template of the name, whose component ends at the first slash. -/
structure Fetches (name : Text) (call : Call) : Prop where
  method_eq : call.method = "core_output_load_template".toList
  args_eq : ∃ component template : Text,
    call.args = [("component".toList, .string component), ("template".toList, .string template)] ∧
    component ≠ [] ∧ template ≠ [] ∧ '/' ∉ component ∧ name = component ++ '/' :: template

/-- The round trips of a fetch: one, with a call for each of the names in their order, or none if
there are no names. -/
def FetchedOnce (names : List Text) (trips : List (List Call)) : Prop :=
  if names = [] then trips = []
  else ∃ calls, List.Forall₂ Fetches names calls ∧ trips = [calls]

theorem fetches_iff {name : Text} {call : Call} : Fetches name call ↔ call? name = some call := by
  constructor
  · rintro ⟨hmethod, component, template, hargs, hname⟩
    have hsplit := splitName_eq_ok_iff.mpr hname
    obtain ⟨_, _⟩ := call
    obtain rfl : _ = "core_output_load_template".toList := hmethod
    obtain rfl : _ = _ := hargs
    rw [call?, hsplit]
    rfl
  · intro h
    unfold call? at h
    split at h
    · rename_i component template hsplit
      obtain rfl := Option.some.inj h
      exact ⟨rfl, component, template, rfl, splitName_eq_ok_iff.mp hsplit⟩
    · cases h

def callsFor (names : List Text) : List Call :=
  names.filterMap call?

theorem isSome_call?_of_isName {name : Text} (h : IsName name) : (call? name).isSome := by
  obtain ⟨parts, hsplit⟩ := isName_iff.mp h
  exact isSome_call? hsplit

theorem map_call?_eq {names : List Text} (h : ∀ name ∈ names, IsName name) :
    names.map call? = (callsFor names).map some := by
  induction names with
  | nil => rfl
  | cons name names ih =>
    obtain ⟨hname, hnames⟩ := List.forall_mem_cons.mp h
    obtain ⟨call, hcall⟩ := Option.isSome_iff_exists.mp (isSome_call?_of_isName hname)
    have hcalls : callsFor (name :: names) = call :: callsFor names :=
      List.filterMap_cons_some hcall
    rw [List.map_cons, ih hnames, hcalls, List.map_cons, hcall]

theorem length_callsFor {names : List Text} (h : ∀ name ∈ names, IsName name) :
    (callsFor names).length = names.length := by
  simpa using (congrArg List.length (map_call?_eq h)).symm

theorem forall₂_fetches_iff {names : List Text} {calls : List Call} :
    List.Forall₂ Fetches names calls ↔ names.map call? = calls.map some := by
  rw [← List.forall₂_eq_eq_eq, List.forall₂_map_left_iff, List.forall₂_map_right_iff]
  exact ⟨.imp fun _ _ ↦ fetches_iff.mp, .imp fun _ _ ↦ fetches_iff.mpr⟩

theorem forall₂_fetches {names : List Text} (h : ∀ name ∈ names, IsName name) :
    List.Forall₂ Fetches names (callsFor names) :=
  forall₂_fetches_iff.mpr (map_call?_eq h)

theorem callsFor_eq {names : List Text} {calls : List Call} (h : List.Forall₂ Fetches names calls) :
    callsFor names = calls := by
  have hcalls : (names.map call?).filterMap id = (calls.map some).filterMap id :=
    congrArg _ (forall₂_fetches_iff.mp h)
  rwa [List.filterMap_map, List.filterMap_map, Function.id_comp, Function.id_comp,
    List.filterMap_some] at hcalls

/-! ## What is fetched -/

section Plan

variable {cache : TemplateCache} {names missing : List Text} {places : List Place}

theorem missing_of_plan {past : List Text}
    (h : cache.plan (lacking cache past) names = .ok (places, missing)) :
    missing = lacking cache (past ++ names) := by
  induction names generalizing past places with
  | nil =>
    obtain ⟨-, rfl⟩ := Prod.mk.inj (Except.ok.inj h)
    rw [List.append_nil]
  | cons name names ih =>
    obtain ⟨parts, place, rest, -, -, hplace⟩ := plan_cons h
    have hstep := lacking_concat cache past name
    rw [List.append_cons]
    obtain ⟨source, hget, -, hplan⟩ | ⟨more, rfl, hget, -, hplan⟩ := hplace
    · have hcached : (List.lookup name cache).isSome := Option.isSome_iff_exists.mpr ⟨source, hget⟩
      rw [if_pos (.inl hcached)] at hstep
      exact ih (hstep.symm ▸ hplan)
    · have hnone : (List.lookup name cache).isSome = false := Option.isSome_eq_false_iff.mpr
        (Option.isNone_iff_eq_none.mpr hget)
      simp only [hnone, Bool.false_eq_true, false_or] at hstep
      exact ih (hstep.symm ▸ hplan)

theorem exists_plan (h : ∀ name ∈ names, IsName name) :
    ∃ places, cache.plan [] names = .ok (places, lacking cache names) := by
  have hparts : ∃ parts, names.mapM splitName = .ok parts := by
    induction names with
    | nil => exact ⟨[], rfl⟩
    | cons name names ih =>
      obtain ⟨hname, hnames⟩ := List.forall_mem_cons.mp h
      obtain ⟨parts, hsplit⟩ := isName_iff.mp hname
      obtain ⟨rest, hrest⟩ := ih hnames
      exact ⟨parts :: rest, by rw [List.mapM_cons, hsplit, hrest]; rfl⟩
  obtain ⟨parts, hparts⟩ := hparts
  have hplan := map_plan cache [] names
  rw [hparts] at hplan
  cases hplanned : cache.plan [] names with
  | error e =>
    rw [hplanned] at hplan
    cases hplan
  | ok planned =>
    obtain ⟨places, missing⟩ := planned
    have hnone : cache.plan (lacking cache []) names = .ok (places, missing) := hplanned
    obtain rfl : missing = lacking cache names := missing_of_plan hnone
    exact ⟨places, rfl⟩

theorem plan_of_not_isName {before after : List Text} {bad : Text}
    (hbefore : ∀ name ∈ before, IsName name)
    (hbad : ¬IsName bad) : cache.plan [] (before ++ bad :: after) = .error (.templateName bad) := by
  have hparts : (before ++ bad :: after).mapM splitName = .error (.templateName bad) := by
    induction before with
    | nil =>
      rw [List.nil_append, List.mapM_cons, splitName_of_not_isName hbad]
      rfl
    | cons name before ih =>
      obtain ⟨hname, hnames⟩ := List.forall_mem_cons.mp hbefore
      obtain ⟨parts, hsplit⟩ := isName_iff.mp hname
      rw [List.cons_append, List.mapM_cons, hsplit, ih hnames]
      rfl
  have hplan := map_plan cache [] (before ++ bad :: after)
  rw [hparts] at hplan
  cases hplanned : cache.plan [] (before ++ bad :: after) with
  | error e =>
    rw [hplanned] at hplan
    exact congrArg _ (Except.error.inj hplan)
  | ok planned =>
    rw [hplanned] at hplan
    cases hplan

end Plan

/-! ## Results of calls -/

def textResult (t : Text) : CallResult :=
  .ok (.string t)

theorem payload_eq_ok_iff {result : CallResult} {t : Text} :
    result.payload .text method = .ok t ↔ result = textResult t := by
  constructor
  · intro h
    cases result with
    | error e => cases h
    | ok v =>
      cases v with
      | string s => exact congrArg textResult (Except.ok.inj h)
      | null | bool b | number n | array items | object fields => cases h
  · rintro rfl
    rfl

/-- All calls are fulfilled with texts, or there is a first one that is not. -/
theorem eq_map_textResult_or (results : List CallResult) :
    (∃ sources : List Text, results = sources.map textResult) ∨
      ∃ (sources : List Text) (failed : CallResult) (e : RemoteError) (more : List CallResult),
        results = sources.map textResult ++ failed :: more ∧
          failed.payload .text method = .error e := by
  induction results with
  | nil => exact .inl ⟨[], rfl⟩
  | cons result results ih =>
    cases hresult : result.payload .text method with
    | error e => exact .inr ⟨[], result, e, results, rfl, hresult⟩
    | ok source =>
      obtain rfl := payload_eq_ok_iff.mp hresult
      obtain ⟨sources, rfl⟩ | ⟨sources, failed, e, more, rfl, hfailed⟩ := ih
      · exact .inl ⟨source :: sources, rfl⟩
      · exact .inr ⟨source :: sources, failed, e, more, rfl, hfailed⟩

/-! ## Fetching and keeping -/

section Fetch

variable {ω : Type} {transport : Transport ω} {cache : TemplateCache} {site : ω}
  {name source : Text} {asked front sources : List Text} {result : CallResult}
  {results : List CallResult} {e : RemoteError}

theorem keepAll_of_text :
    keepAll (name :: asked) (textResult source :: results) =
      .access (fun cache ↦ store cache name source) fun cache ↦
        (keepAll asked results).bind fun rest ↦
          .pure (rest.map ((((store cache name source).get? name).getD source) :: ·)) := by
  have hbind : (keepAll (name :: asked) (textResult source :: results)).bind Job.pure = _ :=
    keepAll_bind_of_ok rfl Job.pure
  rwa [Job.bind_pure] at hbind

theorem run_keepAll_of_text (habsent : cache.get? name = none) :
    (keepAll (name :: asked) (textResult source :: results)).run transport cache site =
      (((keepAll asked results).run transport (cache ++ [(name, source)]) site).1.map (source :: ·),
        ((keepAll asked results).run transport (cache ++ [(name, source)]) site).2) := by
  have hstore : store cache name source = cache ++ [(name, source)] := by
    rw [store, habsent]
    rfl
  have hself : (store cache name source).get? name = some ((cache.get? name).getD source) :=
    lookup_insertNew_self cache name source
  rw [keepAll_of_text, Job.run, Job.run_bind, hself, habsent, hstore]
  rfl

theorem run_keepAll_of_error (h : result.payload .text method = .error e) :
    (keepAll (name :: asked) (result :: results)).run transport cache site =
      (.error (.remote e), cache, site) := by
  rw [keepAll, keep, h]
  rfl

/-- The sources in front are kept, whatever becomes of the rest. -/
theorem run_keepAll_append (hlength : front.length = sources.length) (hnodup : front.Nodup)
    (habsent : ∀ name ∈ front, cache.get? name = none) :
    (keepAll (front ++ asked) (sources.map textResult ++ results)).run transport cache site =
      (((keepAll asked results).run transport (cache ++ front.zip sources) site).1.map
          (sources ++ ·),
        ((keepAll asked results).run transport (cache ++ front.zip sources) site).2) := by
  induction front generalizing cache sources with
  | nil =>
    obtain rfl := List.length_eq_zero_iff.mp hlength.symm
    have hid (r : Except RenderError (List Text)) : r.map ([] ++ ·) = r := by cases r <;> rfl
    rw [List.zip_nil_left, List.append_nil, List.map_nil, List.nil_append, List.nil_append, hid]
  | cons name front ih =>
    obtain ⟨source, sources, rfl⟩ := List.exists_cons_of_length_eq_add_one hlength.symm
    obtain ⟨hname, hnodup⟩ := List.nodup_cons.mp hnodup
    obtain ⟨hnone, habsent⟩ := List.forall_mem_cons.mp habsent
    have hothers := absent_append_singleton hname habsent source
    have hcons (r : Except RenderError (List Text)) :
        (r.map (sources ++ ·)).map (source :: ·) = r.map (source :: sources ++ ·) := by
          cases r <;> rfl
    rw [List.cons_append, List.map_cons, List.cons_append, run_keepAll_of_text hnone,
      ih (Nat.succ.inj hlength) hnodup hothers, hcons, List.append_assoc, List.singleton_append,
      List.zip_cons_cons]

theorem run_keepAll_of_texts (hlength : asked.length = sources.length) (hnodup : asked.Nodup)
    (habsent : ∀ name ∈ asked, cache.get? name = none) :
    (keepAll asked (sources.map textResult)).run transport cache site =
      (.ok sources, cache ++ asked.zip sources, site) := by
  have hrun : (keepAll (asked ++ []) (sources.map textResult ++ [])).run transport cache site = _ :=
    run_keepAll_append hlength hnodup habsent
  rw [List.append_nil, List.append_nil] at hrun
  have hnone : (keepAll [] []).run transport (cache ++ asked.zip sources) site =
      (.ok [], cache ++ asked.zip sources, site) := rfl
  rw [hrun, hnone, Except.map, List.append_nil]

theorem run_keepAll_of_failed {failed : CallResult} {more : List CallResult}
    (hfailed : failed.payload .text method = .error e) (hlength : sources.length < asked.length)
    (hnodup : asked.Nodup) (habsent : ∀ name ∈ asked, cache.get? name = none) :
    (keepAll asked (sources.map textResult ++ failed :: more)).run transport cache site =
      (.error (.remote e), cache ++ (asked.take sources.length).zip sources, site) := by
  have hfront : (asked.take sources.length).length = sources.length :=
    List.length_take_of_le (Nat.le_of_lt hlength)
  have hrun : (keepAll (asked.take sources.length ++ asked.drop sources.length)
      (sources.map textResult ++ failed :: more)).run transport cache site = _ :=
    run_keepAll_append hfront (hnodup.sublist (List.take_sublist _ _))
      fun name hname ↦ habsent name (List.mem_of_mem_take hname)
  rw [List.take_append_drop, List.drop_eq_getElem_cons hlength,
    run_keepAll_of_error hfailed] at hrun
  exact hrun

theorem trips_keepAll (asked : List Text) (results : List CallResult) :
    (keepAll asked results).trips transport cache site = [] := by
  induction asked generalizing results cache with
  | nil => rfl
  | cons name asked ih =>
    cases results with
    | nil => rfl
    | cons result results =>
      cases h : result.payload .text method with
      | error e =>
        rw [keepAll, keep, h]
        rfl
      | ok source =>
        obtain rfl := payload_eq_ok_iff.mp h
        rw [keepAll_of_text, Job.trips, Job.trips_bind, ih]
        rfl

variable {names : List Text}

theorem fetch_eq (hne : asked ≠ []) (hasked : ∀ name ∈ asked, IsName name) :
    fetch asked = .request (callsFor asked) (keepAll asked) := by
  have hbind := fetch_bind hne (map_call?_eq hasked) Job.pure
  simpa only [Job.bind_pure] using hbind

theorem run_fetch (hasked : ∀ name ∈ asked, IsName name) :
    (fetch asked).run transport cache site =
      (keepAll asked (transport.exchange (callsFor asked) site).1).run transport cache
        (transport.exchange (callsFor asked) site).2 := by
  obtain rfl | hne := eq_or_ne asked []
  · rfl
  · rw [fetch_eq hne hasked]
    rfl

theorem trips_fetch (hasked : ∀ name ∈ asked, IsName name) :
    (fetch asked).trips transport cache site = if asked = [] then [] else [callsFor asked] := by
  obtain rfl | hne := eq_or_ne asked []
  · rfl
  · have hcalls : callsFor asked ≠ [] := by
      rw [← List.length_pos_iff, length_callsFor hasked]
      exact List.length_pos_iff.mpr hne
    rw [fetch_eq hne hasked, Job.trips, trips_keepAll, List.append_nil, tripOf_of_ne_nil hcalls,
      if_neg hne]

end Fetch

/-! ## Resolving -/

/-- What a resolution of names comes to, on its own. -/
structure Resolution {ω : Type} (transport : Transport ω) (cache : TemplateCache)
    (names : List Text) (site : ω) : Prop where
  /-- The first name that is none is reported; nothing is sent and nothing is kept. -/
  invalid : ∀ before bad after, names = before ++ bad :: after → (∀ name ∈ before, IsName name) →
    ¬IsName bad →
    (resolveMany names).run transport cache site = (.error (.templateName bad), cache, site) ∧
      (resolveMany names).trips transport cache site = []
  /-- What the cache lacks is asked for in one round trip, each name by a call of its own. -/
  asked : (∀ name ∈ names, IsName name) →
    FetchedOnce (lacking cache names) ((resolveMany names).trips transport cache site)
  /-- If every call is fulfilled with a text, these are added to the cache, and the result is what
  the cache has for the names then. -/
  fulfilled : ∀ calls, List.Forall₂ Fetches (lacking cache names) calls →
    (∀ name ∈ names, IsName name) → ∀ sources : List Text,
    (transport.exchange calls site).1 = sources.map textResult →
    ∃ (found : List Text) (later : TemplateCache),
      later = cache ++ (lacking cache names).zip sources ∧ names.map later.get? = found.map some ∧
      (resolveMany names).run transport cache site =
        (.ok found, later, (transport.exchange calls site).2)
  /-- If not, there is a first call that is not. -/
  answered : ∀ calls, List.Forall₂ Fetches (lacking cache names) calls →
    (∃ sources : List Text, (transport.exchange calls site).1 = sources.map textResult) ∨
      ∃ (sources : List Text) (failed : CallResult) (e : RemoteError) (more : List CallResult),
        (transport.exchange calls site).1 = sources.map textResult ++ failed :: more ∧
          failed.payload .text method = .error e
  /-- Then the result is its error, and the texts in front of it are added to the cache. -/
  failed : ∀ calls, List.Forall₂ Fetches (lacking cache names) calls →
    (∀ name ∈ names, IsName name) → ∀ (sources : List Text) failed more e,
    (transport.exchange calls site).1 = sources.map textResult ++ failed :: more →
    failed.payload .text method = .error e →
    (resolveMany names).run transport cache site =
      (.error (.remote e), cache ++ ((lacking cache names).take sources.length).zip sources,
        (transport.exchange calls site).2)
  /-- One name is resolved as in a list. -/
  single : ∀ name, names = [name] →
    (resolveMany names).run transport cache site =
        (((resolve name).run transport cache site).1.map ([·]),
          ((resolve name).run transport cache site).2) ∧
      (resolveMany names).trips transport cache site = (resolve name).trips transport cache site

section Resolve

variable {ω : Type} {transport : Transport ω} {cache : TemplateCache} {site : ω} {names : List Text}
  {places : List Place} {missing : List Text}

theorem run_resolveMany_of_plan (h : cache.plan [] names = .ok (places, missing)) :
    (resolveMany names).run transport cache site =
      (((fetch missing).run transport cache site).1.map fun fetched ↦
        places.map (Place.source fetched), ((fetch missing).run transport cache site).2) := by
  rw [resolveMany_eq, Job.run]
  simp only [id, h, Job.run_bind]
  rfl

theorem trips_resolveMany_of_plan (h : cache.plan [] names = .ok (places, missing)) :
    (resolveMany names).trips transport cache site =
      (fetch missing).trips transport cache site := by
  rw [resolveMany_eq, Job.trips]
  simp only [id, h, Job.trips_bind]
  exact List.append_nil _

theorem run_fetch_singleton {name : Text} (hname : IsName name) (habsent : cache.get? name = none) :
    (∃ source, ((fetch [name]).run transport cache site).1 = .ok [source]) ∨
      ∃ e, ((fetch [name]).run transport cache site).1 = .error e := by
  have hasked : ∀ other ∈ [name], IsName other := List.forall_mem_singleton.mpr hname
  have habsent : ∀ other ∈ [name], cache.get? other = none := List.forall_mem_singleton.mpr habsent
  have hlength : (transport.exchange (callsFor [name]) site).1.length = 1 := by
    rw [Transport.length_exchange, length_callsFor hasked, List.length_singleton]
  rw [run_fetch hasked]
  obtain ⟨sources, hresults⟩ | ⟨sources, failed, e, more, hresults, hfailed⟩ :=
    eq_map_textResult_or (transport.exchange (callsFor [name]) site).1
  · rw [hresults, List.length_map] at hlength
    obtain ⟨source, rfl⟩ := List.length_eq_one_iff.mp hlength
    have hlength : [name].length = [source].length := rfl
    rw [hresults, run_keepAll_of_texts hlength (List.nodup_singleton name) habsent]
    exact .inl ⟨source, rfl⟩
  · rw [hresults, List.length_append, List.length_map, List.length_cons] at hlength
    have hfirst : sources.length < [name].length := by
      rw [List.length_singleton]
      omega
    rw [hresults, run_keepAll_of_failed hfailed hfirst (List.nodup_singleton name) habsent]
    exact .inr ⟨_, rfl⟩

theorem resolveMany_singleton (name : Text) :
    (resolveMany [name]).run transport cache site =
        (((resolve name).run transport cache site).1.map ([·]),
          ((resolve name).run transport cache site).2) ∧
      (resolveMany [name]).trips transport cache site =
        (resolve name).trips transport cache site := by
  by_cases hname : IsName name
  · obtain ⟨parts, hsplit⟩ := isName_iff.mp hname
    rw [resolve_eq hsplit, Job.run, Job.trips]
    cases hget : cache.get? name with
    | some source =>
      have hplan : cache.plan [] [name] = .ok ([.stored source], []) := by
        rw [plan, hsplit, hget]
        rfl
      rw [run_resolveMany_of_plan hplan, trips_resolveMany_of_plan hplan]
      exact ⟨rfl, rfl⟩
    | none =>
      have hplan : cache.plan [] [name] = .ok ([.fetched 0], [name]) := by
        rw [plan, hsplit, hget, if_neg List.not_mem_nil, List.nil_append]
        simp only [List.idxOf_cons_self]
        rfl
      rw [run_resolveMany_of_plan hplan, trips_resolveMany_of_plan hplan]
      simp only [id, Job.run_bind, Job.trips_bind]
      refine ⟨?_, (List.append_nil _).symm⟩
      have hfetch : (∃ source, ((fetch [name]).run transport cache site).1 = .ok [source]) ∨
          ∃ e, ((fetch [name]).run transport cache site).1 = .error e :=
            run_fetch_singleton hname hget
      obtain ⟨source, hfetched⟩ | ⟨e, hfetched⟩ := hfetch
      · rw [hfetched]
        rfl
      · rw [hfetched]
        rfl
  · have hplan : cache.plan [] ([] ++ name :: []) = .error (.templateName name) :=
      plan_of_not_isName (List.forall_mem_nil _) hname
    rw [List.nil_append] at hplan
    rw [resolveMany_eq, resolve, splitName_of_not_isName hname, Job.run, Job.trips]
    simp only [id, hplan]
    exact ⟨rfl, rfl⟩

/-- The first name that is none is reported; nothing is sent and nothing is kept. -/
theorem resolveMany_of_not_isName {before after : List Text} {bad : Text}
    (hbefore : ∀ name ∈ before, IsName name) (hbad : ¬IsName bad) :
    (resolveMany (before ++ bad :: after)).run transport cache site =
        (.error (.templateName bad), cache, site) ∧
      (resolveMany (before ++ bad :: after)).trips transport cache site = [] := by
  have hplan : cache.plan [] (before ++ bad :: after) = .error (.templateName bad) :=
    plan_of_not_isName hbefore hbad
  constructor
  · rw [resolveMany_eq, Job.run]
    simp only [id, hplan, Job.run]
  · rw [resolveMany_eq, Job.trips]
    simp only [id, hplan, Job.trips]

section Valid

variable (hnames : ∀ name ∈ names, IsName name)

include hnames

theorem isName_of_mem_lacking : ∀ name ∈ lacking cache names, IsName name :=
  fun name hname ↦ hnames name (mem_lacking.mp hname).1

theorem trips_resolveMany :
    (resolveMany names).trips transport cache site =
      if lacking cache names = [] then [] else [callsFor (lacking cache names)] := by
  have hlacking : ∀ name ∈ lacking cache names, IsName name := isName_of_mem_lacking hnames
  obtain ⟨places, hplan⟩ : ∃ places, cache.plan [] names = .ok (places, lacking cache names) :=
    exists_plan hnames
  rw [trips_resolveMany_of_plan hplan, trips_fetch hlacking]

theorem fetchedOnce_resolveMany :
    FetchedOnce (lacking cache names) ((resolveMany names).trips transport cache site) := by
  rw [FetchedOnce, trips_resolveMany hnames]
  split
  · rfl
  · exact ⟨_, forall₂_fetches (isName_of_mem_lacking hnames), rfl⟩

theorem run_resolveMany_of_texts {sources : List Text}
    (hresults : (transport.exchange (callsFor (lacking cache names)) site).1 =
      sources.map textResult) :
    ∃ (found : List Text) (later : TemplateCache),
      later = cache ++ (lacking cache names).zip sources ∧
      names.map later.get? = found.map some ∧
      (resolveMany names).run transport cache site =
        (.ok found, later, (transport.exchange (callsFor (lacking cache names)) site).2) := by
  have hlacking : ∀ name ∈ lacking cache names, IsName name := isName_of_mem_lacking hnames
  have habsent : ∀ name ∈ lacking cache names, cache.get? name = none :=
    fun name hname ↦ (mem_lacking.mp hname).2
  have hlength : (lacking cache names).length = sources.length := by
    rw [← length_callsFor hlacking, ← Transport.length_exchange transport _ site, hresults,
      List.length_map]
  have hfetched := map_lookup_append_zip hlength (nodup_lacking cache names) habsent
  obtain ⟨places, hplan⟩ : ∃ places, cache.plan [] names = .ok (places, lacking cache names) :=
    exists_plan hnames
  refine ⟨places.map (Place.source sources), _, rfl, ?_, ?_⟩
  · exact map_get?_of_places (planned_of_plan hplan).2 (extends_append _ _) hfetched
  · rw [run_resolveMany_of_plan hplan, run_fetch hlacking, hresults,
      run_keepAll_of_texts hlength (nodup_lacking cache names) habsent]
    rfl

theorem run_resolveMany_of_failed {sources : List Text} {failed : CallResult}
    {more : List CallResult} {e : RemoteError} (hfailed : failed.payload .text method = .error e)
    (hresults : (transport.exchange (callsFor (lacking cache names)) site).1 =
      sources.map textResult ++ failed :: more) :
    (resolveMany names).run transport cache site =
      (.error (.remote e), cache ++ ((lacking cache names).take sources.length).zip sources,
        (transport.exchange (callsFor (lacking cache names)) site).2) := by
  have hlacking : ∀ name ∈ lacking cache names, IsName name := isName_of_mem_lacking hnames
  have hlength : sources.length < (lacking cache names).length := by
    rw [← length_callsFor hlacking, ← Transport.length_exchange transport _ site, hresults]
    simp
  obtain ⟨places, hplan⟩ : ∃ places, cache.plan [] names = .ok (places, lacking cache names) :=
    exists_plan hnames
  rw [run_resolveMany_of_plan hplan, run_fetch hlacking, hresults,
    run_keepAll_of_failed hfailed hlength (nodup_lacking cache names)
      fun name hname ↦ (mem_lacking.mp hname).2]
  rfl

theorem isSome_of_run_resolveMany {found : List Text}
    (h : ((resolveMany names).run transport cache site).1 = .ok found) :
    ∀ name ∈ names, (((resolveMany names).run transport cache site).2.1.get? name).isSome := by
  obtain ⟨sources, hresults⟩ | ⟨sources, failed, e, more, hresults, hfailed⟩ :=
    eq_map_textResult_or (transport.exchange (callsFor (lacking cache names)) site).1
  · obtain ⟨found, later, -, hfound, hrun⟩ := run_resolveMany_of_texts hnames hresults
    rw [hrun]
    intro name hname
    obtain ⟨source, -, hsource⟩ := List.mem_map.mp (hfound ▸ List.mem_map_of_mem hname)
    rw [← hsource]
    rfl
  · rw [run_resolveMany_of_failed hnames hfailed hresults] at h
    cases h

end Valid

theorem resolve_of_cached {name source : Text} (hname : IsName name)
    (hcached : cache.get? name = some source) :
    (resolve name).run transport cache site = (.ok source, cache, site) ∧
      (resolve name).trips transport cache site = [] := by
  obtain ⟨parts, hsplit⟩ := isName_iff.mp hname
  rw [resolve_eq hsplit, Job.run, Job.trips]
  simp only [id, hcached]
  exact ⟨rfl, rfl⟩

/-- **Resolving names, from end to end.** -/
theorem resolveMany_alone (transport : Transport ω) (cache : TemplateCache) (names : List Text)
    (site : ω) : Resolution transport cache names site where
  invalid := by
    rintro before bad after rfl hbefore hbad
    exact resolveMany_of_not_isName hbefore hbad
  asked hnames := fetchedOnce_resolveMany hnames
  fulfilled := by
    rintro calls hcalls hnames sources hresults
    obtain rfl := callsFor_eq hcalls
    exact run_resolveMany_of_texts hnames hresults
  answered calls _ := eq_map_textResult_or _
  failed := by
    rintro calls hcalls hnames sources failed more e hresults hfailed
    obtain rfl := callsFor_eq hcalls
    exact run_resolveMany_of_failed hnames hfailed hresults
  single := by
    rintro name rfl
    exact resolveMany_singleton name

end Resolve

end SiteClient.TemplateCache
