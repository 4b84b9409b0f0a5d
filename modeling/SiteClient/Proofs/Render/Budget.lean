import SiteClient.Proofs.Localized.Lookup
import SiteClient.Proofs.Render.History
import SiteClient.Proofs.Render.Resolution
/-!
# The round trips of a rendering

A rendering resolves the icon template and its own together, then each again, and looks its strings
up once the pass over them has succeeded. Only the first resolution can make a round trip, since it
leaves both sources in the cache or fails; so a rendering makes at most two, and none that follows a
failure.

What the pass records depends on the two sources, the number of the rendering and the context alone
(`Renderer.expanded`), so the round trips are told without a run of the whole rendering. A rendering
that succeeded leaves in the caches all that it asked for. When it is repeated it can lack nothing,
unless its number, which templates see, makes it record other strings.
-/

namespace SiteClient

open Localized TemplateCache

namespace Renderer

/-! ## The pass -/

section Pass

variable {τ : Type}

/-- The pass over two sources. -/
def pass (r : Renderer τ) (icon source : Text) (number : UInt64) (context : Json) :
    Except TemplateError Expansion :=
  match Template.parsed icon, Template.parsed source with
  | .error e, _ | .ok _, .error e => .error e
  | .ok icon, .ok _ => Expansion.ofSource (r.iconStyle icon) source
      [injected r.config number, context]

/-- The names that a rendering resolves. -/
def namesFor (r : Renderer τ) (name : Text) : List Text :=
  [r.settings.iconTemplate, name]

/-- The source that a cache has for a name. -/
def sourceIn (cache : TemplateCache) (name : Text) : Text :=
  (cache.get? name).getD []

/-- What the pass of a rendering comes to, once both sources have been resolved. -/
def expanded {ω : Type} (transport : Transport ω) (r : Renderer τ) (name : Text) (context : Json)
    (m : RenderMemory τ) (site : ω) : Except RenderError Expansion :=
  let (result, cache, _) := (resolveMany (r.namesFor name)).run transport m.templates site
  match result with
  | .error e => .error e
  | .ok _ =>
    (r.pass (sourceIn cache r.settings.iconTemplate) (sourceIn cache name) m.nextNumber
      context).mapError .template

end Pass

variable {ω : Type} {transport : Transport ω} {r : Renderer StringCache}
  {m : RenderMemory StringCache}
  {site : ω}

/-! ## The sources -/

theorem run_onTemplates {α : Type} (job : Job TemplateCache α) :
    (onTemplates job).run transport m site =
      ((job.run transport m.templates site).1,
        { m with templates := (job.run transport m.templates site).2.1 },
        (job.run transport m.templates site).2.2) :=
  Job.run_zoom RenderMemory.templates (fun templates m ↦ { m with templates }) (fun _ _ ↦ rfl)
    (fun _ _ _ ↦ rfl) (fun _ ↦ rfl) job m site

theorem trips_onTemplates {α : Type} (job : Job TemplateCache α) :
    (onTemplates job : Job (RenderMemory StringCache) α).trips transport m site =
      job.trips transport m.templates site :=
  Job.trips_zoom RenderMemory.templates (fun templates m ↦ { m with templates })
    (fun _ _ ↦ rfl) job m site

theorem onTemplates_resolve_of_cached {name source : Text} (hname : IsName name)
    (hcached : m.templates.get? name = some source) :
    (onTemplates (TemplateCache.resolve name)).run transport m site = (.ok source, m, site) ∧
      (onTemplates (TemplateCache.resolve name) : Job (RenderMemory StringCache) _).trips
        transport m site = [] := by
  rw [run_onTemplates, trips_onTemplates]
  have hresolve : _ ∧ (TemplateCache.resolve name).trips transport m.templates site = [] :=
    resolve_of_cached hname hcached
  rw [hresolve.1]
  exact ⟨rfl, hresolve.2⟩

section Load

variable {name : Text} {later : TemplateCache} {site' : ω} (context : Json)

theorem load_of_failed {e : RenderError}
    (h : (resolveMany (r.namesFor name)).run transport m.templates site =
      (.error e, later, site')) :
    ((PageCall.named name context).load r).trips transport m site =
        (resolveMany (r.namesFor name)).trips transport m.templates site ∧
      ((PageCall.named name context).load r).run transport m site =
        (.error e, { m with templates := later }, site') := by
  have hmany : (onTemplates (resolveMany (r.namesFor name))).run transport m site =
      (.error e, { m with templates := later }, site') := by rw [run_onTemplates, h]
  have hfailed : ((onTemplates (resolveMany (r.namesFor name))).run transport m site).1 =
      .error e := by
    rw [hmany]
  constructor
  · exact (Job.trips_andThen_of_error _ hfailed).trans (trips_onTemplates _)
  · refine (Job.run_andThen_of_error _ hfailed).trans ?_
    rw [hmany]

theorem isName_of_mem_namesFor (hicon : IsName r.settings.iconTemplate) (hname : IsName name) :
    ∀ other ∈ r.namesFor name, IsName other :=
  List.forall_mem_cons.mpr ⟨hicon, List.forall_mem_singleton.mpr hname⟩

/-- Only the first of the three resolutions can send anything; the others find their sources. -/
theorem load_of_resolved (hicon : IsName r.settings.iconTemplate) (hname : IsName name)
    {found : List Text}
    (h : (resolveMany (r.namesFor name)).run transport m.templates site =
      (.ok found, later, site')) :
    ((PageCall.named name context).load r).trips transport m site =
        (resolveMany (r.namesFor name)).trips transport m.templates site ∧
      ((PageCall.named name context).load r).run transport m site =
        (.ok (sourceIn later r.settings.iconTemplate, sourceIn later name),
          { m with templates := later }, site') := by
  have hmany : (onTemplates (resolveMany (r.namesFor name))).run transport m site =
      (.ok found, { m with templates := later }, site') := by rw [run_onTemplates, h]
  have hresult : ((resolveMany (r.namesFor name)).run transport m.templates site).1 =
      .ok found := by
    rw [h]
  have hfound : ∀ other ∈ r.namesFor name, (later.get? other).isSome := by
    have hall := isSome_of_run_resolveMany (isName_of_mem_namesFor hicon hname) hresult
    rwa [h] at hall
  obtain ⟨iconSource, hiconSource⟩ := Option.isSome_iff_exists.mp (hfound _ List.mem_cons_self)
  obtain ⟨source, hsource⟩ :=
    Option.isSome_iff_exists.mp
      (hfound name (List.mem_cons_of_mem _ (List.mem_singleton_self name)))
  have hiconRun : (onTemplates (TemplateCache.resolve r.settings.iconTemplate)).run transport
      { m with templates := later } site' = _ ∧ _ := onTemplates_resolve_of_cached hicon hiconSource
  have hsourceRun : (onTemplates (TemplateCache.resolve name)).run transport
      { m with templates := later } site' = _ ∧ _ := onTemplates_resolve_of_cached hname hsource
  have hfirst :
      (onTemplates (resolveMany (r.namesFor name)) : Job (RenderMemory StringCache) _).trips
        transport m site = _ := trips_onTemplates _
  rw [namesFor] at hmany hfirst
  constructor
  · simp only [PageCall.load, Job.andThen, Job.trips_bind, hmany, hfirst, hiconRun,
      hsourceRun, Job.trips, List.append_nil, namesFor]
  · simp only [PageCall.load, Job.andThen, Job.run_bind, hmany, hiconRun, hsourceRun,
      Job.run, hiconSource, hsource, sourceIn, Option.getD_some]

end Load

/-! ## The strings -/

theorem run_strings (hr : r.resolve = lookup) {requests : List StringRequest}
    (hne : requests ≠ []) : (r.strings requests).run transport m site =
      (match ((lookup requests).run transport m.strings site).1 with
        | .error e => .error (.remote e)
        | .ok texts =>
          if texts.length = requests.length then .ok texts
          else .error (.remote (countError requests.length texts.length)),
        { m with strings := ((lookup requests).run transport m.strings site).2.1 },
        ((lookup requests).run transport m.strings site).2.2) := by
  have hzoom : ((lookup requests).zoom RenderMemory.strings fun strings m ↦ { m with strings }).run
      transport m site = _ :=
    Job.run_zoom RenderMemory.strings (fun strings m ↦ { m with strings }) (fun _ _ ↦ rfl)
      (fun _ _ _ ↦ rfl) (fun _ ↦ rfl) (lookup requests) m site
  rw [Renderer.strings, if_neg hne, hr, Job.andThen, Job.mapError, Job.run_bind,
    Job.run_bind, hzoom, Job.run]
  cases ((lookup requests).run transport m.strings site).1 with
  | error e => rfl
  | ok texts =>
    simp only [Except.mapError]
    split <;> rfl

theorem isSome_of_run_strings (hr : r.resolve = lookup) {requests : List StringRequest}
    {texts : List Text} (h : ((r.strings requests).run transport m site).1 = .ok texts) :
    (∀ id ∈ idsOf requests,
        (((r.strings requests).run transport m site).2.1.strings.lookup id).isSome) ∧
      ((r.strings requests).run transport m site).2.1.templates = m.templates := by
  obtain rfl | hne := eq_or_ne requests []
  · exact ⟨fun id hid ↦ absurd hid List.not_mem_nil, rfl⟩
  · rw [run_strings hr hne] at h ⊢
    cases hlookup : ((lookup requests).run transport m.strings site).1 with
    | error e =>
      rw [hlookup] at h
      cases h
    | ok found => exact ⟨isSome_of_run_lookup hlookup, rfl⟩

theorem trips_strings (hr : r.resolve = lookup) (requests : List StringRequest) :
    (r.strings requests).trips transport m site = stringTrips m.strings requests := by
  obtain rfl | hne := eq_or_ne requests []
  · exact (stringTrips_eq_nil fun id hid ↦ absurd hid List.not_mem_nil).symm
  · rw [Renderer.strings, if_neg hne, hr, Job.andThen, Job.mapError, Job.trips_bind_of_nil,
      Job.trips_bind_of_nil, Job.trips_zoom, trips_lookup]
    · exact fun _ _ ↦ rfl
    · exact fun _ _ _ ↦ rfl
    · rintro (e | texts) later site'
      · rfl
      · simp only
        split <;> rfl

/-! ## The rendering -/

theorem renderWithIcon_of_parsed {icon source : Text} {style content : Template} (context : Json)
    (hicon : Template.parsed icon = .ok style) (hsource : Template.parsed source = .ok content) :
    r.renderWithIcon icon source context =
      .access (fun m ↦ { m with nextNumber := m.nextNumber + 1 }) fun m ↦
        match Expansion.ofSource (r.iconStyle style) source
            [injected r.config m.nextNumber, context] with
        | .error e => .pure (.error (.template e))
        | .ok expansion => (r.strings expansion.collected.strings).andThen fun strings ↦
          .pure (.ok (page expansion strings)) := by
  rw [renderWithIcon, hicon, hsource]
  refine congrArg (Job.access _) (funext fun m ↦ ?_)
  simp only [Job.bind]
  cases Expansion.ofSource (r.iconStyle style) source
    [injected r.config m.nextNumber, context] <;> rfl

theorem renderWithIcon_of_error {icon source : Text} {context : Json} {e : TemplateError}
    (h : r.pass icon source m.nextNumber context = .error e) :
    ((r.renderWithIcon icon source context).run transport m site).1 = .error (.template e) ∧
      (r.renderWithIcon icon source context).trips transport m site = [] := by
  cases hicon : Template.parsed icon with
  | error e' =>
    rw [pass, hicon] at h
    rw [renderWithIcon, hicon, Except.error.inj h]
    exact ⟨rfl, rfl⟩
  | ok style =>
    cases hsource : Template.parsed source with
    | error e' =>
      rw [pass, hicon, hsource] at h
      rw [renderWithIcon, hicon, hsource, Except.error.inj h]
      exact ⟨rfl, rfl⟩
    | ok content =>
      rw [pass, hicon, hsource] at h
      simp only [renderWithIcon_of_parsed context hicon hsource, Job.run, Job.trips, h, and_self]

theorem renderWithIcon_of_ok (hr : r.resolve = lookup) {icon source : Text} {context : Json}
    {expansion : Expansion} (h : r.pass icon source m.nextNumber context = .ok expansion) :
    (r.renderWithIcon icon source context).trips transport m site =
        stringTrips m.strings expansion.collected.strings ∧
      ∀ page, ((r.renderWithIcon icon source context).run transport m site).1 = .ok page →
        (∀ id ∈ idsOf expansion.collected.strings,
          (((r.renderWithIcon icon source context).run transport m site).2.1.strings.lookup
            id).isSome) ∧
        ((r.renderWithIcon icon source context).run transport m site).2.1.templates =
          m.templates := by
  cases hicon : Template.parsed icon with
  | error e =>
    rw [pass, hicon] at h
    cases h
  | ok style =>
    cases hsource : Template.parsed source with
    | error e =>
      rw [pass, hicon, hsource] at h
      cases h
    | ok content =>
      rw [pass, hicon, hsource] at h
      simp only [renderWithIcon_of_parsed context hicon hsource, Job.run, Job.trips, h]
      constructor
      · rw [Job.andThen, Job.trips_bind_of_nil, trips_strings hr]
        rintro (e | texts) _ _ <;> rfl
      · intro page hpage
        cases hstrings : ((r.strings expansion.collected.strings).run transport
            { m with nextNumber := m.nextNumber + 1 } site).1 with
        | error e =>
          rw [Job.run_andThen_of_error _ hstrings] at hpage
          cases hpage
        | ok texts =>
          rw [Job.run_andThen_of_ok _ hstrings]
          exact isSome_of_run_strings hr hstrings

theorem render_eq (r : Renderer StringCache) (name : Text) (context : Json) :
    r.render name context = ((PageCall.named name context).load r).andThen fun sources ↦
      r.renderWithIcon sources.1 sources.2 context :=
  PageCall.job_eq r (.named name context)

section Render

variable (hr : r.resolve = lookup) (hicon : IsName r.settings.iconTemplate) {name : Text}
  (hname : IsName name) {context : Json}

theorem render_of_failed {e : RenderError} {later : TemplateCache} {site' : ω}
    (h : (resolveMany (r.namesFor name)).run transport m.templates site =
      (.error e, later, site')) :
    expanded transport r name context m site = .error e ∧
      (r.render name context).trips transport m site =
        (resolveMany (r.namesFor name)).trips transport m.templates site ∧
      ((r.render name context).run transport m site).1 = .error e := by
  obtain ⟨htrips, hrun⟩ := load_of_failed context h
  have hfailed := congrArg Prod.fst hrun
  rw [render_eq, Job.trips_andThen_of_error _ hfailed, Job.run_andThen_of_error _ hfailed,
    expanded, h]
  exact ⟨rfl, htrips, rfl⟩

include hicon hname

theorem render_of_resolved {found : List Text} {later : TemplateCache} {site' : ω}
    (h : (resolveMany (r.namesFor name)).run transport m.templates site =
      (.ok found, later, site')) :
    expanded transport r name context m site =
        (r.pass (sourceIn later r.settings.iconTemplate) (sourceIn later name) m.nextNumber
          context).mapError .template ∧
      (r.render name context).trips transport m site =
        (resolveMany (r.namesFor name)).trips transport m.templates site ++
          (r.renderWithIcon (sourceIn later r.settings.iconTemplate) (sourceIn later name)
            context).trips transport { m with templates := later } site' ∧
      (r.render name context).run transport m site =
        (r.renderWithIcon (sourceIn later r.settings.iconTemplate) (sourceIn later name)
          context).run transport { m with templates := later } site' := by
  obtain ⟨htrips, hrun⟩ := load_of_resolved context hicon hname h
  have hloaded := congrArg Prod.fst hrun
  rw [render_eq, Job.trips_andThen_of_ok _ hloaded, Job.run_andThen_of_ok _ hloaded, htrips, hrun,
    expanded, h]
  exact ⟨rfl, rfl, rfl⟩

theorem render_of_error {e : RenderError}
    (h : expanded transport r name context m site = .error e) :
    (r.render name context).trips transport m site =
        (resolveMany (r.namesFor name)).trips transport m.templates site ∧
      ((r.render name context).run transport m site).1 = .error e := by
  obtain ⟨result, later, site', hresolved⟩ : ∃ result later site',
      (resolveMany (r.namesFor name)).run transport m.templates site = (result, later, site') :=
    ⟨_, _, _, rfl⟩
  cases result with
  | error e' =>
    obtain ⟨hexpanded, htrips, hrun⟩ : expanded transport r name context m site = _ ∧ _ :=
      render_of_failed hresolved
    obtain rfl : e' = e := Except.error.inj (hexpanded.symm.trans h)
    exact ⟨htrips, hrun⟩
  | ok found =>
    obtain ⟨hexpanded, htrips, hrun⟩ : expanded transport r name context m site = _ ∧ _ :=
      render_of_resolved hicon hname hresolved
    rw [htrips, hrun]
    rw [hexpanded] at h
    cases hpass : r.pass (sourceIn later r.settings.iconTemplate) (sourceIn later name) m.nextNumber
        context with
    | error e' =>
      obtain rfl : RenderError.template e' = e := Except.error.inj (by rwa [hpass] at h)
      have hfailed :
          ((r.renderWithIcon (sourceIn later r.settings.iconTemplate) (sourceIn later name)
            context).run transport { m with templates := later } site').1 = _ ∧ _ :=
        renderWithIcon_of_error hpass
      rw [hfailed.2, List.append_nil]
      exact ⟨rfl, hfailed.1⟩
    | ok expansion =>
      rw [hpass] at h
      cases h

include hr

/-- Once the pass has succeeded, the strings that it recorded are looked up; and if the rendering
succeeds, the caches have all that it asked for. -/
theorem render_of_ok {expansion : Expansion}
    (h : expanded transport r name context m site = .ok expansion) :
    (r.render name context).trips transport m site =
        (resolveMany (r.namesFor name)).trips transport m.templates site ++
          stringTrips m.strings expansion.collected.strings ∧
      ∀ page, ((r.render name context).run transport m site).1 = .ok page →
        (∀ other ∈ r.namesFor name,
          (((r.render name context).run transport m site).2.1.templates.get? other).isSome) ∧
        ∀ id ∈ idsOf expansion.collected.strings,
          (((r.render name context).run transport m site).2.1.strings.lookup id).isSome := by
  obtain ⟨result, later, site', hresolved⟩ : ∃ result later site',
      (resolveMany (r.namesFor name)).run transport m.templates site = (result, later, site') :=
    ⟨_, _, _, rfl⟩
  cases result with
  | error e =>
    rw [(render_of_failed hresolved).1] at h
    cases h
  | ok found =>
    obtain ⟨hexpanded, htrips, hrun⟩ : expanded transport r name context m site = _ ∧ _ :=
      render_of_resolved hicon hname hresolved
    have hfound : ∀ other ∈ r.namesFor name, (later.get? other).isSome := by
      have hall := isSome_of_run_resolveMany (isName_of_mem_namesFor hicon hname)
        (congrArg Prod.fst hresolved)
      rwa [hresolved] at hall
    rw [htrips, hrun]
    rw [hexpanded] at h
    cases hpass : r.pass (sourceIn later r.settings.iconTemplate) (sourceIn later name) m.nextNumber
        context with
    | error e =>
      rw [hpass] at h
      cases h
    | ok expansion' =>
      obtain rfl : expansion' = expansion := Except.ok.inj (by rwa [hpass] at h)
      have hrendered :
          (r.renderWithIcon (sourceIn later r.settings.iconTemplate) (sourceIn later name)
            context).trips transport { m with templates := later } site' = _ ∧ _ :=
        renderWithIcon_of_ok hr hpass
      refine ⟨by rw [hrendered.1], fun page hpage ↦ ?_⟩
      obtain ⟨hstrings, htemplates⟩ := hrendered.2 page hpage
      rw [htemplates]
      exact ⟨hfound, hstrings⟩

end Render

/-! ## The budget -/

/-- The round trips of one rendering, whatever the caches have and the site answers. -/
structure Budget (transport : Transport ω) (r : Renderer StringCache) (name : Text) (context : Json)
    (m : RenderMemory StringCache) (site : ω) : Prop where
  /-- If a fetch, the parsing or the expansion fails, that is the result. There was no other round
  trip than the one for templates, with one call for each name that the cache lacks, that of the
  icon first. -/
  failed : ∀ e, expanded transport r name context m site = .error e →
    ((r.render name context).run transport m site).1 = .error e ∧
      FetchedOnce (lacking m.templates (r.namesFor name))
        ((r.render name context).trips transport m site)
  /-- If not, one for strings follows it, with one call for those of the pass that the cache
  lacks. -/
  completed : ∀ expansion, expanded transport r name context m site = .ok expansion →
    ∃ templates strings : List (List Call),
      (r.render name context).trips transport m site = templates ++ strings ∧
        FetchedOnce (lacking m.templates (r.namesFor name)) templates ∧
        AskedOnce (lacking m.strings (idsOf expansion.collected.strings)) strings
  /-- There are at most two. -/
  length_le : ((r.render name context).trips transport m site).length ≤ 2
  /-- A rendering that succeeded makes none when it is repeated, at any time, unless it records
  strings that it did not record before. -/
  repeated : ∀ page, ((r.render name context).run transport m site).1 = .ok page →
    ∀ (again : RenderMemory StringCache) (site' : ω),
      Extends ((r.render name context).run transport m site).2.1.templates again.templates →
      Extends ((r.render name context).run transport m site).2.1.strings again.strings →
      (∀ expansion expansion', expanded transport r name context m site = .ok expansion →
        expanded transport r name context again site' = .ok expansion' →
        idsOf expansion'.collected.strings ⊆ idsOf expansion.collected.strings) →
      (r.render name context).trips transport again site' = []

/-- **A rendering makes at most two round trips**, one for templates and one for strings, and each
only for what the caches lack. -/
theorem render_within_budget (transport : Transport ω) {r : Renderer StringCache}
    (hr : r.resolve = lookup)
    (hicon : IsName r.settings.iconTemplate) {name : Text} (hname : IsName name) (context : Json)
    (m : RenderMemory StringCache) (site : ω) : Budget transport r name context m site := by
  have hnames : ∀ other ∈ r.namesFor name, IsName other := isName_of_mem_namesFor hicon hname
  refine ⟨?failed, ?completed, ?length_le, ?repeated⟩
  case failed =>
    intro e he
    obtain ⟨htrips, hresult⟩ := render_of_error hicon hname he
    exact ⟨hresult, htrips ▸ fetchedOnce_resolveMany hnames⟩
  case completed =>
    intro expansion hexpansion
    exact ⟨_, _, (render_of_ok hr hicon hname hexpansion).1, fetchedOnce_resolveMany hnames,
      askedOnce_stringTrips _ _⟩
  case length_le =>
    have htemplates :
        ((resolveMany (r.namesFor name)).trips transport m.templates site).length ≤ 1 := by
      rw [trips_resolveMany hnames]
      split
      · exact Nat.zero_le 1
      · exact Nat.le_refl 1
    cases hexpanded : expanded transport r name context m site with
    | error e =>
      rw [(render_of_error hicon hname hexpanded).1]
      exact Nat.le_succ_of_le htemplates
    | ok expansion =>
      rw [(render_of_ok hr hicon hname hexpanded).1, List.length_append]
      exact Nat.add_le_add htemplates (length_stringTrips_le _ _)
  case repeated =>
    intro page hpage again site' htemplates hstrings hrecorded
    cases hexpanded : expanded transport r name context m site with
    | error e =>
      rw [(render_of_error hicon hname hexpanded).2] at hpage
      cases hpage
    | ok expansion =>
      obtain ⟨hall, hids⟩ := (render_of_ok hr hicon hname hexpanded).2 page hpage
      have hcached : lacking again.templates (r.namesFor name) = [] :=
        lacking_eq_nil.mpr fun other hother ↦ htemplates.isSome (hall other hother)
      have hnone : (resolveMany (r.namesFor name)).trips transport again.templates site' = [] := by
        rw [trips_resolveMany hnames, if_pos hcached]
      cases hagain : expanded transport r name context again site' with
      | error e => rw [(render_of_error hicon hname hagain).1, hnone]
      | ok expansion' =>
        have hfound : ∀ id ∈ idsOf expansion'.collected.strings,
            (again.strings.lookup id).isSome := fun id hid ↦
          hstrings.isSome (hids id (hrecorded expansion expansion' hexpanded hagain hid))
        rw [(render_of_ok hr hicon hname hagain).1, hnone, stringTrips_eq_nil hfound,
          List.append_nil]

/-- A renderer whose strings come from the site. -/
def siteRenderer : Renderer StringCache where
  config := default
  settings := {}
  resolve := lookup

/-- A site with an icon, a page with a string, and the string. -/
def helloSite : CannedSite where
  replies := [
    .ok (Wire.encodeResponses [.success (.string "<i>".toList),
      .success (.string "\x7b\x7b#str\x7d\x7dhello, core\x7b\x7b/str\x7d\x7d".toList)]),
    .ok (Wire.encodeResponses [.success (.array [.string "Hello".toList])])]

/-- A cold rendering uses its budget up. -/
theorem render_within_budget_of_helloSite :
    IsName siteRenderer.settings.iconTemplate ∧ IsName "core/hello".toList ∧
      ((siteRenderer.render "core/hello".toList .null).trips CannedSite.transport { strings := [] }
        helloSite).length = 2 ∧
      Budget CannedSite.transport siteRenderer "core/hello".toList .null { strings := [] }
      helloSite := by
  have hicon : IsName siteRenderer.settings.iconTemplate :=
    ⟨"core".toList, "pix_icon".toList, by decide, by decide, by decide, rfl⟩
  have hname : IsName "core/hello".toList :=
    ⟨"core".toList, "hello".toList, by decide, by decide, by decide, rfl⟩
  refine ⟨hicon, hname, ?_, render_within_budget CannedSite.transport rfl hicon hname
    .null _ helloSite⟩
  decide +kernel

end Renderer
end SiteClient
