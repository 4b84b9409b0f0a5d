import Mathlib.Data.List.Forall2
import Mathlib.Data.List.Nodup
import SiteClient.Proofs.Remote.Caching
import SiteClient.Proofs.Remote.Contracts
import SiteClient.Proofs.Template.Segments
import SiteClient.Remote.CannedSite
import SiteClient.Render.TemplateCache
/-!
# One source for each template

Jobs that resolve template names at the same time share a cache, and each of them may be interrupted
at any access to it and at any round trip, while the site answers as it likes. Still all of them
agree on the source of a name: what a job returns for a name is what the cache has for it when the
job ends (`Query.contract`), and the cache never changes its mind (`Grows`).

A job reads the cache once, at its start. What it finds it returns, and the rest it asks for, so it
never asks for a name that was in the cache by then. What it stores are sources that its own calls
brought; a name whose call failed is left as it is (`meets_keepAll`).
-/

namespace SiteClient.TemplateCache

/-! ## Names and calls -/

def call? (name : Text) : Option Call :=
  match splitName name with
  | .ok (component, template) => some (loadCall component template)
  | .error _ => none

theorem eq_of_splitName {name component template : Text}
    (h : splitName name = .ok (component, template)) : name = component ++ '/' :: template := by
  unfold splitName at h
  split at h
  · rename_i hbreak
    obtain ⟨rfl, rfl⟩ := Prod.mk.inj (Except.ok.inj h)
    rw [Text.eq_of_breakOn hbreak, List.append_assoc]
    rfl
  · exact absurd h (by simp)

@[simp] theorem get?_loadCall_component (component template : Text) :
    (loadCall component template).args.get? "component".toList = some (.string component) := by
  rw [loadCall, Call.arg, Fields.get?_insert_of_ne _ _ (by decide), Call.arg,
    Fields.get?_insert_self]

@[simp] theorem get?_loadCall_template (component template : Text) :
    (loadCall component template).args.get? "template".toList = some (.string template) := by
  rw [loadCall, Call.arg, Fields.get?_insert_self]

theorem loadCall_inj {component template component' template' : Text}
    (h : loadCall component template = loadCall component' template') :
    component = component' ∧ template = template' := by
  have hcomponent := get?_loadCall_component component template
  have htemplate := get?_loadCall_template component template
  rw [h, get?_loadCall_component, Option.some_inj, Json.string.injEq] at hcomponent
  rw [h, get?_loadCall_template, Option.some_inj, Json.string.injEq] at htemplate
  exact ⟨hcomponent.symm, htemplate.symm⟩

theorem call?_inj {name name' : Text} {call : Call} (h : call? name = some call)
    (h' : call? name' = some call) : name = name' := by
  unfold call? at h h'
  split at h
  · rename_i component template hsplit
    split at h'
    · rename_i component' template' hsplit'
      obtain ⟨rfl, rfl⟩ := loadCall_inj (Option.some.inj (h.trans h'.symm))
      rw [eq_of_splitName hsplit, eq_of_splitName hsplit']
    · exact absurd h' (by simp)
  · exact absurd h (by simp)

theorem isSome_call? {name : Text} {parts : Text × Text} (h : splitName name = .ok parts) :
    (call? name).isSome := by
  simp [call?, h]

/-! ## What a job is to fetch -/

/-- All that is in the cache stays as it is. -/
abbrev Grows (cache later : TemplateCache) : Prop :=
  Extends cache later

instance : IsPreorder TemplateCache Grows :=
  inferInstanceAs (IsPreorder (List (Text × Text)) Extends)

section Plan

variable {cache later : TemplateCache} {names missing fetched : List Text} {places : List Place}

/-- Names that can be fetched together: each once, and none that is in the cache. -/
structure Fetchable (cache : TemplateCache) (missing : List Text) : Prop where
  nodup : missing.Nodup
  callable : ∀ name ∈ missing, (call? name).isSome
  absent : ∀ name ∈ missing, cache.get? name = none

theorem Fetchable.concat (h : Fetchable cache missing) {name : Text} (hcall : (call? name).isSome)
    (habsent : cache.get? name = none) :
    Fetchable cache (if name ∈ missing then missing else missing ++ [name]) := by
  split
  · exact h
  · rename_i hname
    refine ⟨List.nodup_append.2 ⟨h.nodup, List.nodup_singleton name, ?_⟩, ?_, ?_⟩
    · rintro other hother _ hlast rfl
      exact hname (List.mem_singleton.1 hlast ▸ hother)
    · intro other hother
      obtain hother | rfl := (List.mem_append.1 hother).imp_right List.mem_singleton.1
      · exact h.callable other hother
      · exact hcall
    · intro other hother
      obtain hother | rfl := (List.mem_append.1 hother).imp_right List.mem_singleton.1
      · exact h.absent other hother
      · exact habsent

/-- Where the source of a name is: in the cache, or among those of the names to fetch. -/
inductive Place.Holds (cache : TemplateCache) (missing : List Text) : Text → Place → Prop
  | stored {name source : Text} (h : cache.get? name = some source) :
      Holds cache missing name (.stored source)
  | fetched {name : Text} {index : ℕ} (h : missing[index]? = some name) :
      Holds cache missing name (.fetched index)

/-- A name that has a place is one, and its source is in the cache or it is among the names to
fetch. -/
theorem plan_cons {started : List Text} {name : Text}
    (h : cache.plan started (name :: names) = .ok (places, missing)) :
    ∃ parts place rest, splitName name = .ok parts ∧ places = place :: rest ∧
      ((∃ source, cache.get? name = some source ∧ place = .stored source ∧
          cache.plan started names = .ok (rest, missing)) ∨
        ∃ more, more = (if name ∈ started then started else started ++ [name]) ∧
          cache.get? name = none ∧ place = .fetched (more.idxOf name) ∧
          cache.plan more names = .ok (rest, missing)) := by
  rw [plan] at h
  cases hsplit : splitName name with
  | error e => simp [hsplit, bind, Except.bind] at h
  | ok parts =>
    cases hget : cache.get? name with
    | some source =>
      simp only [hsplit, hget, bind, Except.bind] at h
      split at h
      · exact absurd h (by simp)
      · rename_i found hplan
        obtain ⟨rfl, rfl⟩ := Prod.mk.inj (Except.ok.inj h)
        exact ⟨parts, _, _, rfl, rfl, .inl ⟨source, rfl, rfl, hplan⟩⟩
    | none =>
      simp only [hsplit, hget, bind, Except.bind] at h
      split at h
      · exact absurd h (by simp)
      · rename_i found hplan
        obtain ⟨rfl, rfl⟩ := Prod.mk.inj (Except.ok.inj h)
        exact ⟨parts, _, _, rfl, rfl, .inr ⟨_, rfl, rfl, rfl, hplan⟩⟩

theorem plan_spec {started : List Text} (hstarted : Fetchable cache started)
    (h : cache.plan started names = .ok (places, missing)) :
    started <+: missing ∧ Fetchable cache missing ∧
      List.Forall₂ (Place.Holds cache missing) names places := by
  induction names generalizing started places with
  | nil =>
    obtain ⟨rfl, rfl⟩ := Prod.mk.inj (Except.ok.inj h)
    exact ⟨List.prefix_rfl, hstarted, .nil⟩
  | cons name names ih =>
    obtain ⟨parts, place, rest, hsplit, rfl, hplace⟩ := plan_cons h
    obtain ⟨source, hget, rfl, hplan⟩ | ⟨more, hmore, hget, rfl, hplan⟩ := hplace
    · obtain ⟨hstart, hfetch, hplaces⟩ := ih hstarted hplan
      exact ⟨hstart, hfetch, .cons (.stored hget) hplaces⟩
    · have hextended : Fetchable cache more := hmore ▸ hstarted.concat (isSome_call? hsplit) hget
      obtain ⟨hstart, hfetch, hplaces⟩ := ih hextended hplan
      have hextends : started <+: more := by
        rw [hmore]
        split
        · exact List.prefix_rfl
        · exact List.prefix_append ..
      have hmem : name ∈ more := by
        rw [hmore]
        split
        · assumption
        · exact List.mem_concat_self
      -- The name keeps its place, since other names only come behind it.
      refine ⟨hextends.trans hstart, hfetch, .cons (.fetched ?_) hplaces⟩
      have hlt := List.idxOf_lt_length_of_mem hmem
      rw [List.getElem?_eq_some_iff]
      refine ⟨Nat.lt_of_lt_of_le hlt hstart.length_le, ?_⟩
      rw [← hstart.getElem hlt, List.getElem_idxOf]

theorem map_plan (cache : TemplateCache) (started names : List Text) :
    (cache.plan started names).map (fun _ ↦ ()) = (names.mapM splitName).map fun _ ↦ () := by
  induction names generalizing started with
  | nil => rfl
  | cons name names ih =>
    rw [plan, List.mapM_cons]
    cases splitName name with
    | error e => rfl
    | ok parts =>
      have hrest : ((names.mapM splitName).bind fun rest ↦ .ok (parts :: rest)).map (fun _ ↦ ()) =
          (names.mapM splitName).map fun _ ↦ () := by
        cases names.mapM splitName <;> rfl
      refine Eq.trans ?_ hrest.symm
      cases cache.get? name with
      | some source =>
        rw [← ih started]
        simp only [bind, Except.bind]
        cases cache.plan started names <;> rfl
      | none =>
        rw [← ih (if name ∈ started then started else started ++ [name])]
        simp only [bind, Except.bind]
        cases cache.plan (if name ∈ started then started else started ++ [name]) names <;> rfl

theorem planned_of_plan (h : cache.plan [] names = .ok (places, missing)) :
    Fetchable cache missing ∧ List.Forall₂ (Place.Holds cache missing) names places :=
  (plan_spec ⟨List.nodup_nil, by simp, by simp⟩ h).2

theorem Place.Holds.get?_source {name : Text} {place : Place} (h : place.Holds cache missing name)
    (hlater : Grows cache later) (hfetched : missing.map later.get? = fetched.map some) :
    later.get? name = some (place.source fetched) := by
  cases h with
  | stored hname => exact hlater hname
  | @fetched index hname =>
    have hsource : (missing.map later.get?)[index]? = some (later.get? name) := by
      rw [List.getElem?_map, hname, Option.map_some]
    rw [hfetched, List.getElem?_map, Option.map_eq_some_iff] at hsource
    obtain ⟨source, hindex, hsource⟩ := hsource
    rw [Place.source, List.getD_eq_getElem?_getD, hindex, Option.getD_some, hsource]

theorem map_get?_of_places (h : List.Forall₂ (Place.Holds cache missing) names places)
    (hlater : Grows cache later) (hfetched : missing.map later.get? = fetched.map some) :
    names.map later.get? = (places.map (Place.source fetched)).map some := by
  induction h with
  | nil => rfl
  | cons hplace _ ih =>
    rw [List.map_cons, List.map_cons, List.map_cons, hplace.get?_source hlater hfetched, ih]

end Plan

/-! ## Fetching -/

variable {cache : TemplateCache} {missing : List Text}

theorem exists_calls {asked : List Text} (h : ∀ name ∈ asked, (call? name).isSome) :
    ∃ calls : List Call, asked.map call? = calls.map some := by
  induction asked with
  | nil => exact ⟨[], rfl⟩
  | cons name asked ih =>
    obtain ⟨call, hcall⟩ := Option.isSome_iff_exists.1 (h name List.mem_cons_self)
    obtain ⟨calls, hcalls⟩ := ih fun other hother ↦ h other (List.mem_cons_of_mem _ hother)
    exact ⟨call :: calls, by rw [List.map_cons, List.map_cons, hcall, hcalls]⟩

theorem exists_parts {asked : List Text} {calls : List Call}
    (h : asked.map call? = calls.map some) :
    ∃ parts, asked.mapM splitName = .ok parts ∧
      parts.map (fun (component, template) ↦ loadCall component template) = calls := by
  induction asked generalizing calls with
  | nil =>
    obtain rfl : calls = [] := by simpa using h.symm
    exact ⟨[], rfl, rfl⟩
  | cons name asked ih =>
    obtain ⟨call, calls, rfl⟩ :=
      List.exists_cons_of_ne_nil (show calls ≠ [] by rintro rfl; simp at h)
    rw [List.map_cons, List.map_cons, List.cons.injEq] at h
    obtain ⟨parts, hparts, rfl⟩ := ih h.2
    have hcall := h.1
    unfold call? at hcall
    split at hcall
    · rename_i component template hsplit
      refine ⟨(component, template) :: parts, ?_, ?_⟩
      · rw [List.mapM_cons, hsplit, hparts]
        rfl
      · exact congrArg (· :: _) (Option.some.inj hcall)
    · exact absurd hcall (by simp)

theorem fetch_bind {β : Type} {asked : List Text} {calls : List Call} (hne : asked ≠ [])
    (hcalls : asked.map call? = calls.map some)
    (f : Except RenderError (List Text) → Job TemplateCache β) :
    (fetch asked).bind f = .request calls fun results ↦ (keepAll asked results).bind f := by
  obtain ⟨parts, hparts, rfl⟩ := exists_parts hcalls
  have hparts_ne : parts.map (fun (component, template) ↦ loadCall component template) ≠ [] := by
    intro hnil
    rw [hnil, List.map_nil, List.map_eq_nil_iff] at hcalls
    exact hne hcalls
  rw [fetch, if_neg hne, hparts]
  simp only [Job.send, if_neg hparts_ne]
  rfl

theorem resolve_eq {name : Text} {parts : Text × Text} (h : splitName name = .ok parts) :
    resolve name = .access id fun cache ↦
      match cache.get? name with
      | some source => .pure (.ok source)
      | none => (fetch [name]).bind fun found ↦
        .pure (found.map fun sources ↦ sources.getLastD []) := by
  rw [resolve, h]
  refine congrArg (Job.access id) (funext fun cache ↦ ?_)
  cases hname : cache.get? name with
  | some source =>
    simp only [Job.bind, hname]
    rfl
  | none =>
    simp only [Job.bind, hname, Job.andThen]
    refine congrArg _ (funext fun found ↦ ?_)
    cases found <;> rfl

theorem resolveMany_eq (names : List Text) :
    resolveMany names = .access id fun cache ↦
      match cache.plan [] names with
      | .error e => .pure (.error e)
      | .ok (places, missing) => (fetch missing).bind fun found ↦
        .pure (found.map fun fetched ↦ places.map (Place.source fetched)) := by
  rw [resolveMany]
  refine congrArg (Job.access id) (funext fun cache ↦ ?_)
  cases hplan : cache.plan [] names with
  | error e =>
    simp only [Job.bind, hplan]
    rfl
  | ok planned =>
    simp only [Job.bind, hplan, Job.andThen]
    refine congrArg _ (funext fun found ↦ ?_)
    cases found <;> rfl

/-- A source of a name is stored, unless another job was first; the job goes on with the one that is
in the cache then. -/
theorem keepAll_bind_of_ok {β : Type} {name source : Text} {asked : List Text} {result : CallResult}
    {results : List CallResult} (h : result.payload .text method = .ok source)
    (f : Except RenderError (List Text) → Job TemplateCache β) :
    (keepAll (name :: asked) (result :: results)).bind f =
      .access (fun cache ↦ store cache name source) fun cache ↦
        (keepAll asked results).bind fun rest ↦
          f (rest.map ((((store cache name source).get? name).getD source) :: ·)) := by
  rw [keepAll, keep, h, Job.andThen, Job.bind_bind]
  simp only [Job.modifyGet, Job.bind, Job.andThen, Job.bind_bind]
  congr
  funext cache
  congr
  funext rest
  cases rest <;> rfl

theorem keepAll_bind_of_error {β : Type} {name : Text} {asked : List Text} {result : CallResult}
    {results : List CallResult} {e : RemoteError} (h : result.payload .text method = .error e)
    (f : Except RenderError (List Text) → Job TemplateCache β) :
    (keepAll (name :: asked) (result :: results)).bind f = f (.error (.remote e)) := by
  rw [keepAll, keep, h]
  rfl

/-- What follows the fetch goes on, for every way other jobs use the cache, with an error, or with
what the cache has for the names by then. The job changes the cache only where a call brought a
source. -/
theorem meets_keepAll {α : Type} {c : Contract Grows α} {asked : List Text}
    {results : List CallResult} {f : Except RenderError (List Text) → Job TemplateCache α}
    (hlength : results.length = asked.length)
    (hstore : ∀ name result source, (name, result) ∈ asked.zip results →
      result.payload .text method = .ok source →
      ∀ cache, c.guarantee cache (store cache name source))
    (herror : ∀ e (later : TemplateCache), Grows cache later → (f (.error e)).Meets c later)
    (hok : ∀ sources (later : TemplateCache), Grows cache later →
      asked.map later.get? = sources.map some → (f (.ok sources)).Meets c later) :
    ((keepAll asked results).bind f).Meets c cache := by
  induction asked generalizing results f cache with
  | nil => exact hok [] cache (refl_of Grows cache) rfl
  | cons name asked ih =>
    obtain ⟨result, results, rfl⟩ :=
      List.exists_cons_of_ne_nil (show results ≠ [] by rintro rfl; simp at hlength)
    cases hresult : result.payload .text method with
    | error e =>
      rw [keepAll_bind_of_error hresult]
      exact herror _ cache (refl_of Grows cache)
    | ok source =>
      rw [keepAll_bind_of_ok hresult]
      -- Other jobs have made `other` of the cache by the time the source is stored.
      intro other hother
      refine ⟨hstore name result source List.mem_cons_self hresult other, ?_⟩
      have hlater {later : TemplateCache} (h : Grows (store other name source) later) :
          Grows cache later :=
        trans_of Grows hother (trans_of Grows (extends_insertNew other name source) h)
      refine ih (by simpa using hlength) ?_ ?_ ?_
      · exact fun n r s h ↦ hstore n r s (List.mem_cons_of_mem _ h)
      · exact fun e later h ↦ herror e later (hlater h)
      · intro sources later h hsources
        refine hok _ later (hlater h) ?_
        have hstored : (store other name source).get? name =
            some ((other.get? name).getD source) := lookup_insertNew_self other name source
        have hname : later.get? name = some ((other.get? name).getD source) := h hstored
        rw [List.map_cons, hsources, hstored, Option.getD_some, hname]
        rfl

/-! ## Queries -/

/-- What a job may be asked to resolve. -/
inductive Query where
  | one (name : Text)
  | many (names : List Text)

namespace Query

def names : Query → List Text
  | .one name => [name]
  | .many names => names

def job : Query → Job TemplateCache (Except RenderError (List Text))
  | .one name => (resolve name).andThen fun source ↦ .pure (.ok [source])
  | .many names => resolveMany names

/-- What a query is answerable for: it sends calls for different names, none of them `barred`, and
then keeps what arrives; a source that it returns is the one in the cache. -/
def contract (q : Query) (barred : Text → Prop) :
    Contract Grows (Except RenderError (List Text)) where
  guarantee := Grows
  sends calls next := ∃ asked shape, asked.Nodup ∧ (∀ name ∈ asked, ¬barred name) ∧
    asked.map call? = calls.map some ∧
    next = fun results ↦ (keepAll asked results).bind fun found ↦ .pure (found.map shape)
  ends result cache := ∀ sources, result = .ok sources → q.names.map cache.get? = sources.map some
  rely_of_guarantee := id
  ends_of_rely hlater hends sources hsources := hlater.map (hends sources hsources)

variable {q : Query} {barred : Text → Prop}

theorem meets_fetch {shape : List Text → List Text} (hmissing : Fetchable cache missing)
    (hbarred : ∀ name, barred name → (cache.get? name).isSome)
    (hshape : ∀ fetched (later : TemplateCache), Grows cache later →
      missing.map later.get? = fetched.map some →
      q.names.map later.get? = (shape fetched).map some) :
    ((fetch missing).bind fun found ↦ .pure (found.map shape)).Meets (q.contract barred) cache := by
  have hends (fetched : List Text) (later : TemplateCache) (hlater : Grows cache later)
      (hfetched : missing.map later.get? = fetched.map some) :
      (Job.pure (.ok (shape fetched))).Meets (q.contract barred) later := by
    intro sources hsources
    rw [hshape fetched later hlater hfetched, Except.ok.inj hsources]
  obtain rfl | hne := eq_or_ne missing []
  · exact hends [] cache (refl_of Grows cache) rfl
  · obtain ⟨calls, hcalls⟩ := exists_calls hmissing.callable
    rw [fetch_bind hne hcalls]
    have hlength : calls.length = missing.length := by
      simpa using (congrArg List.length hcalls).symm
    refine ⟨⟨missing, shape, hmissing.nodup, ?_, hcalls, rfl⟩, fun results hresults ↦ ?_⟩
    · intro name hname hbar
      have hsome := hbarred name hbar
      rw [hmissing.absent name hname] at hsome
      exact absurd hsome (by simp)
    · refine meets_keepAll (hresults.trans hlength) ?_ ?_ hends
      · exact fun name _ source _ _ other ↦ extends_insertNew other name source
      · exact fun e later _ sources hsources ↦ absurd hsources (by simp [Except.map])

theorem job_one {name : Text} {parts : Text × Text} (h : splitName name = .ok parts) :
    (one name).job = .access id fun cache ↦
      match cache.get? name with
      | some source => .pure (.ok [source])
      | none => (fetch [name]).bind fun found ↦
        .pure (found.map fun sources ↦ [sources.getLastD []]) := by
  rw [job, resolve_eq h]
  refine congrArg (Job.access id) (funext fun cache ↦ ?_)
  cases hname : cache.get? name with
  | some source => simp only [hname, Job.bind]
  | none =>
    simp only [hname, Job.bind_bind]
    refine congrArg _ (funext fun found ↦ ?_)
    cases found <;> rfl

/-- A query keeps its contract, if all that is barred is in the cache by the start. -/
theorem meets_job (hbarred : ∀ name, barred name → (cache.get? name).isSome) :
    q.job.Meets (q.contract barred) cache := by
  cases q with
  | one name =>
    cases hsplit : splitName name with
    | error e =>
      rw [job, resolve, hsplit]
      exact fun sources hsources ↦ absurd hsources (by simp)
    | ok parts =>
      rw [job_one hsplit]
      intro later hlater
      refine ⟨refl_of Grows later, ?_⟩
      cases hname : later.get? name with
      | some source =>
        simp only [hname]
        rintro sources ⟨⟩
        exact congrArg (· :: []) hname
      | none =>
        simp only [hname]
        have hfetchable : Fetchable later [name] := by
          simpa using Fetchable.concat ⟨List.nodup_nil, by simp, by simp⟩
            (isSome_call? hsplit) hname
        refine meets_fetch hfetchable (fun n hn ↦ hlater.isSome (hbarred n hn)) ?_
        intro fetched last _ hfetched
        obtain ⟨source, rfl⟩ : ∃ source, fetched = [source] :=
          List.length_eq_one_iff.1 (by simpa using (congrArg List.length hfetched).symm)
        exact hfetched
  | many names =>
    rw [job, resolveMany_eq]
    intro later hlater
    refine ⟨refl_of Grows later, ?_⟩
    cases hplan : later.plan [] names with
    | error e =>
      simp only [hplan]
      exact fun sources hsources ↦ absurd hsources (by simp)
    | ok planned =>
      simp only [hplan]
      obtain ⟨hfetchable, hplaces⟩ := planned_of_plan hplan
      exact meets_fetch hfetchable (fun n hn ↦ hlater.isSome (hbarred n hn))
        fun fetched last hlast hfetched ↦ map_get?_of_places hplaces hlast hfetched

end Query

/-! ## Agreement -/

/-- What a job is answerable for that sends nothing and leaves the entry of a name as it is. -/
def sparing (α : Type) (name : Text) : Contract Grows α where
  guarantee cache later := Grows cache later ∧ later.get? name = cache.get? name
  sends _ _ := False
  ends _ _ := True
  rely_of_guarantee := And.left
  ends_of_rely _ := id

/-- After a fetch has failed for a name, the job leaves the entry of the name as it is. -/
theorem meets_sparing {asked : List Text} {calls : List Call} {results : List CallResult}
    {shape : List Text → List Text} {name : Text} {call : Call} {result : CallResult}
    {e : RemoteError} (hlength : results.length = asked.length) (hnodup : asked.Nodup)
    (hcalls : asked.map call? = calls.map some) (hcall : call? name = some call)
    (hresult : (call, result) ∈ calls.zip results)
    (hfailed : result.payload .text method = .error e) :
    ((keepAll asked results).bind fun found ↦ .pure (found.map shape)).Meets
      (sparing (Except RenderError (List Text)) name) cache := by
  have hname : (name, result) ∈ asked.zip results := by
    have hmem : (some call, result) ∈ (asked.map call?).zip results := by
      rw [hcalls, List.zip_map_left]
      exact List.mem_map_of_mem hresult
    rw [List.zip_map_left] at hmem
    obtain ⟨⟨other, result'⟩, hother, hpair⟩ := List.mem_map.1 hmem
    obtain ⟨hothercall, rfl⟩ := Prod.mk.inj hpair
    rwa [call?_inj hcall hothercall]
  have hunique {result' : CallResult} (h : (name, result') ∈ asked.zip results) :
      result' = result := by
    have hkeys : ((asked.zip results).map Prod.fst).Nodup := by
      rwa [List.map_fst_zip (Nat.le_of_eq hlength.symm)]
    exact congrArg Prod.snd (List.inj_on_of_nodup_map hkeys h hname rfl)
  refine meets_keepAll hlength ?_ (fun _ _ _ ↦ trivial) (fun _ _ _ _ ↦ trivial)
  intro other result' source hmem hsource later
  refine ⟨extends_insertNew later other source, lookup_insertNew_of_ne later source ?_⟩
  rintro rfl
  rw [hunique hmem, hfailed] at hsource
  exact absurd hsource (by simp)

variable {ω : Type} {transport : Transport ω}
  {pool : Pool ω TemplateCache (Except RenderError (List Text))} {queries : List Query}

/-- A query has ended with a source for a name. -/
def Returned (queries : List Query) (pool : Pool ω TemplateCache (Except RenderError (List Text)))
    (name source : Text) : Prop :=
  ∃ (i : ℕ) (q : Query) (sources : List Text), queries[i]? = some q ∧
    pool.results[i]? = some (some (.ok sources)) ∧ (name, source) ∈ q.names.zip sources

/-- What holds of queries that share a cache, whatever has happened to them and will happen. -/
structure Agreement (transport : Transport ω) (queries : List Query)
    (pool : Pool ω TemplateCache (Except RenderError (List Text))) : Prop where
  /-- A source that is in the cache stays there. -/
  lasting : ∀ later, Pool.Reaches transport pool later → ∀ name source,
    pool.memory.get? name = some source → later.memory.get? name = some source
  /-- A query that succeeds has a source for each of its names. -/
  complete : ∀ (i : ℕ) (q : Query) (sources : List Text), queries[i]? = some q →
    pool.results[i]? = some (some (.ok sources)) → sources.length = q.names.length
  /-- All sources ever returned for a name are the same. -/
  agreed : ∀ later, Pool.Reaches transport pool later → ∀ name source source',
    Returned queries pool name source → Returned queries later name source' → source = source'
  /-- A query that starts when a name is in the cache never issues the call for it. -/
  warm : ∀ (i : ℕ) (q : Query) name call, pool.threads[i]? = some (.ready q.job) →
    (pool.memory.get? name).isSome → call? name = some call →
    ∀ (later : Pool ω TemplateCache _) calls next, Pool.Reaches transport pool later →
      later.threads[i]? = some (.waiting calls next) → call ∉ calls
  /-- A query whose call for a name fails never touches the entry of the name. -/
  failed : ∀ (i : ℕ) calls next name call result e, pool.threads[i]? = some (.waiting calls next) →
    call? name = some call → (call, result) ∈ calls.zip (transport.exchange calls pool.site).1 →
    result.payload .text method = .error e →
    ∀ delivered later last, Pool.Move transport i pool delivered →
      Pool.Reaches transport delivered later → Pool.Move transport i later last →
      last.memory.get? name = later.memory.get? name

/-- The contracts of queries by number, with nothing barred. -/
def contracts (queries : List Query) (i : ℕ) : Contract Grows (Except RenderError (List Text)) :=
  ((queries[i]?).getD (.many [])).contract fun _ ↦ False

theorem meets_contracts (queries : List Query) (memory : TemplateCache) (site : ω) :
    (Pool.start (queries.map Query.job) memory site).Meets (contracts queries) := by
  refine Pool.meets_start fun i job hjob ↦ ?_
  rw [List.getElem?_map, Option.map_eq_some_iff] at hjob
  obtain ⟨q, hq, rfl⟩ := hjob
  rw [contracts, hq]
  exact Query.meets_job fun _ ↦ False.elim

theorem map_get?_of_done (hmeets : pool.Meets (contracts queries)) {i : ℕ} {q : Query}
    {sources : List Text} (hq : queries[i]? = some q)
    (hdone : pool.results[i]? = some (some (.ok sources))) :
    q.names.map pool.memory.get? = sources.map some := by
  have hends := hmeets (Pool.threads_of_results hdone)
  rw [contracts, hq] at hends
  exact hends sources rfl

theorem Returned.get?_eq (hmeets : pool.Meets (contracts queries)) {name source : Text}
    (h : Returned queries pool name source) : pool.memory.get? name = some source := by
  obtain ⟨i, q, sources, hq, hdone, hmem⟩ := h
  have hsources := map_get?_of_done hmeets hq hdone
  obtain ⟨k, hk⟩ := List.mem_iff_getElem?.1 hmem
  obtain ⟨hname, hsource⟩ := List.getElem?_zip_eq_some.1 hk
  have hentry := congrArg (·[k]?) hsources
  simpa only [List.getElem?_map, hname, hsource, Option.map_some, Option.some_inj] using hentry

/-- **Template cache agreement.** However the queries are interleaved, and whatever the site
answers, turns into or fails with, they agree on the source of each name, ask for no name that was
in the cache when they started, and add nothing for a name whose fetch failed. -/
theorem agreement {memory : TemplateCache} {site : ω}
    (h : Pool.Reaches transport (Pool.start (queries.map Query.job) memory site) pool) :
    Agreement transport queries pool := by
  obtain ⟨-, hmeets⟩ := (meets_contracts queries memory site).reaches h
  refine ⟨?lasting, ?complete, ?agreed, ?warm, ?failed⟩
  case lasting => exact fun later hlater name source hname ↦ (hmeets.reaches hlater).1 hname
  case complete =>
    intro i q sources hq hdone
    simpa using (congrArg List.length (map_get?_of_done hmeets hq hdone)).symm
  case agreed =>
    intro later hlater name source source' hsource hsource'
    obtain ⟨hgrows, hmeets'⟩ := hmeets.reaches hlater
    have hentry := hgrows (hsource.get?_eq hmeets)
    exact Option.some.inj (hentry.symm.trans (hsource'.get?_eq hmeets'))
  case warm =>
    intro i q name call hthread hname hcall later calls next hlater hwaiting hmem
    -- From its start on, the query is held to a contract that bars the name.
    have hbarred : pool.Meets (Function.update (contracts queries) i (q.contract (· = name))) := by
      refine hmeets.update fun thread h ↦ ?_
      obtain rfl := Option.some.inj (hthread.symm.trans h)
      exact Query.meets_job (by rintro _ rfl; exact hname)
    have hrequest := (hbarred.reaches hlater).2 hwaiting
    rw [Function.update_self] at hrequest
    obtain ⟨⟨asked, -, -, hfree, hcalls, -⟩, -⟩ := hrequest
    have hasked : some call ∈ asked.map call? := hcalls ▸ List.mem_map_of_mem hmem
    obtain ⟨other, hother, hothercall⟩ := List.mem_map.1 hasked
    exact hfree other hother (call?_inj hothercall hcall)
  case failed =>
    intro i calls next name call result e hwaiting hcall hresult hfailed delivered later last
      hdeliver hlater hmove
    obtain ⟨⟨asked, shape, hnodup, -, hcalls, rfl⟩, -⟩ := hmeets hwaiting
    have hlength : (transport.exchange calls pool.site).1.length = asked.length := by
      rw [Transport.length_exchange]
      simpa using (congrArg List.length hcalls).symm
    -- From the reply on, it is held to one that spares the entry of the name.
    have hspared : delivered.Meets
        (Function.update (contracts queries) i
          (sparing (Except RenderError (List Text)) name)) := by
      refine (hmeets.move hdeliver).2.update fun thread hthread ↦ ?_
      rw [hdeliver.threads_of_waiting hwaiting] at hthread
      obtain rfl := Option.some.inj hthread
      exact meets_sparing hlength hnodup hcalls hcall hresult hfailed
    obtain hsame | hsparing := ((hspared.reaches hlater).2.move hmove).1
    · rw [hsame]
    · rw [Function.update_self] at hsparing
      exact hsparing.2

/-- Three queries for two names. -/
def race : List Query :=
  [.one "a/b".toList, .many ["c/d".toList, "a/b".toList, "c/d".toList], .one "c/d".toList]

/-- A site that answers the same names differently, and the last time without a source. -/
def raceSite : CannedSite where
  replies := [
    .ok (Wire.encodeResponses [.success (.string "A".toList)]),
    .ok (Wire.encodeResponses [.success (.string "C".toList), .success (.string "B".toList)]),
    .ok (Wire.encodeResponses [.success .null])]

/-- The first two queries miss the same name; the third fails. -/
def raceEvents : List Pool.Event :=
  [.poll 0, .poll 1, .poll 2, .deliver 0, .deliver 1, .poll 1, .poll 0, .deliver 2, .poll 2]

theorem agreement_of_race :
    Returned race (Pool.run CannedSite.transport (Pool.start (race.map Query.job) [] raceSite)
      raceEvents) "a/b".toList "B".toList ∧
    Agreement CannedSite.transport race (Pool.run CannedSite.transport
      (Pool.start (race.map Query.job) [] raceSite) raceEvents) := by
  refine ⟨⟨0, .one "a/b".toList, ["B".toList], rfl, ?_, ?_⟩, agreement (Pool.reaches_run _ _)⟩
  · decide +kernel
  · decide

end SiteClient.TemplateCache
