import SiteClient.Proofs.Render.Strings
import SiteClient.Render.Renderer
/-!
# Rendering has no memory

A renderer keeps template sources and strings, and counts its renderings. Over a site that always
answers alike, what it keeps never shows: each call comes to what the answers of the site and the
number of the rendering decide (`PageCall.yields_job`), whatever was rendered or has failed before.
The number is the only trace of earlier calls, and it counts those that came as far as to have both
their templates (`PageCall.isNumbered`).

## The invariant

Two runs with different caches send different batches, so they are not compared with each other.
Both are compared with the answers of the site instead: whatever is kept is one of them
(`SiteAnswers.KnownMemory`). A call keeps that true also when it fails halfway, since only what the
site has answered is stored.
-/

namespace SiteClient

open LocalSite (transport)

/-- A call of a renderer: for the template of a name, or for a source. -/
inductive PageCall where
  | named (name : Text) (context : Json)
  | given (source : Text) (context : Json)

namespace PageCall

def job {τ : Type} (r : Renderer τ) : PageCall → Job (RenderMemory τ) (Except RenderError Rendered)
  | .named name context => r.render name context
  | .given source context => r.renderSource source context

/-- What the template of the call sees, below what every template sees. -/
def context : PageCall → Json
  | .named _ context | .given _ context => context

def load {τ : Type} (r : Renderer τ) :
    PageCall → Job (RenderMemory τ) (Except RenderError (Text × Text))
  | .named name _ =>
    (Renderer.onTemplates (TemplateCache.resolveMany [r.settings.iconTemplate, name])).andThen
      fun _ ↦
        (Renderer.onTemplates (TemplateCache.resolve r.settings.iconTemplate)).andThen fun icon ↦
          (Renderer.onTemplates (TemplateCache.resolve name)).andThen fun source ↦
            .pure (.ok (icon, source))
  | .given source _ =>
    (Renderer.onTemplates (TemplateCache.resolve r.settings.iconTemplate)).andThen fun icon ↦
      .pure (.ok (icon, source))

theorem job_eq {τ : Type} (r : Renderer τ) (call : PageCall) :
    call.job r =
      (call.load r).andThen fun sources ↦ r.renderWithIcon sources.1 sources.2 call.context := by
  cases call with
  | named name context =>
    simp only [load, Job.andThen_andThen]
    rfl
  | given source context =>
    simp only [load, Job.andThen_andThen]
    rfl

end PageCall

namespace Renderer

def serve {τ : Type} (r : Renderer τ) :
    List PageCall → Job (RenderMemory τ) (List (Except RenderError Rendered))
  | [] => .pure []
  | call :: calls =>
      (call.job r).bind fun page ↦ (r.serve calls).bind fun pages ↦ .pure (page :: pages)

end Renderer

/-! ## What the answers decide -/

namespace SiteAnswers

variable {σ : Type} {answers : SiteAnswers}

/-- Whether the icon's and the page's source are templates. -/
def bothParse (icon source : Text) : Bool :=
  (Template.parsed icon).isOk && (Template.parsed source).isOk

/-- The page of a source, by its number. -/
def page (answers : SiteAnswers) (r : Renderer StringCache) (number : UInt64) (icon source : Text)
    (context : Json) : Except RenderError Rendered :=
  match Template.parsed icon, Template.parsed source with
  | .error e, _ | .ok _, .error e => .error (.template e)
  | .ok icon, .ok _ =>
    match Expansion.ofSource (r.iconStyle icon) source
        [Renderer.injected r.config number, context] with
    | .error e => .error (.template e)
    | .ok expansion => .ok (Renderer.page expansion (answers.filled expansion.collected.strings))

/-- The memory of a renderer holds nothing but answers of the site, and the next rendering has the
number. -/
structure KnownMemory (answers : SiteAnswers) (number : UInt64) (m : RenderMemory StringCache)
    (site : LocalSite σ) : Prop where
  templates : answers.Known m.templates site
  strings : answers.KnownStrings m.strings site
  nextNumber : m.nextNumber = number

variable {number : UInt64}

theorem yields_onTemplates {α : Type} {job : Job TemplateCache α} {a : α}
    (h : job.Yields (transport : Transport (LocalSite σ)) answers.Known a answers.Known) :
    (Renderer.onTemplates job).Yields (transport : Transport (LocalSite σ))
    (answers.KnownMemory number) a
      (answers.KnownMemory number) := by
  refine Job.Yields.zoom RenderMemory.templates (fun templates m ↦ { m with templates })
    (fun _ _ ↦ rfl) (fun _ _ _ ↦ rfl) (fun _ ↦ rfl) h (fun _ _ hm ↦ hm.templates) ?_
  intro m site later templates hm htemplates
  exact ⟨htemplates, ⟨hm.strings.1, htemplates.2⟩, hm.nextNumber⟩

variable {r : Renderer StringCache}

theorem yields_strings (hr : r.resolve = Localized.lookup) (requests : List StringRequest) :
    (r.strings requests).Yields (transport : Transport (LocalSite σ)) (answers.KnownMemory number)
      (.ok (answers.filled requests)) (answers.KnownMemory number) := by
  unfold Renderer.strings
  split
  · rename_i hnone
    rw [hnone]
    exact Job.yields_pure
  · have hlookup : ((Localized.lookup requests).zoom RenderMemory.strings
        fun strings m ↦ { m with strings }).Yields (transport : Transport (LocalSite σ))
        (answers.KnownMemory number) (.ok (answers.filled requests))
        (answers.KnownMemory number) := by
      refine Job.Yields.zoom RenderMemory.strings (fun strings m ↦ { m with strings })
        (fun _ _ ↦ rfl) (fun _ _ _ ↦ rfl) (fun _ ↦ rfl) (answers.yields_lookup requests)
        (fun _ _ hm ↦ hm.strings) ?_
      intro m site later strings hm hstrings
      exact ⟨⟨hm.templates.1, hstrings.2⟩, hstrings, hm.nextNumber⟩
    rw [hr]
    refine Job.Yields.andThen_ok (hlookup.bind (Job.yields_pure)) ?_
    rw [if_pos (by rw [filled, List.length_map])]
    exact Job.yields_pure

/-- **A rendering of sources comes to their page**, and takes its number if both sources are
templates. -/
theorem yields_renderWithIcon (hr : r.resolve = Localized.lookup) (icon source : Text)
    (context : Json) :
    (r.renderWithIcon icon source context).Yields (transport : Transport (LocalSite σ))
      (answers.KnownMemory number) (answers.page r number icon source context)
      (answers.KnownMemory (if bothParse icon source then number + 1 else number)) := by
  unfold Renderer.renderWithIcon page bothParse
  cases Template.parsed icon with
  | error e => exact Job.yields_pure
  | ok icon =>
    cases Template.parsed source with
    | error e => exact Job.yields_pure
    | ok _ =>
      refine Job.yields_access fun m site hm ↦ ?_
      obtain ⟨htemplates, hstrings, rfl⟩ := hm
      have hnumbered : answers.KnownMemory (m.nextNumber + 1)
          { m with nextNumber := m.nextNumber + 1 } site := ⟨htemplates, hstrings, rfl⟩
      simp only [Job.bind]
      cases Expansion.ofSource (r.iconStyle icon) source
          [Renderer.injected r.config m.nextNumber, context] with
      | error e => exact Job.yields_pure.here hnumbered
      | ok expansion =>
        refine Job.Yields.andThen_ok
          ((yields_strings hr expansion.collected.strings).here hnumbered) ?_
        exact Job.yields_pure

end SiteAnswers

namespace PageCall

open SiteAnswers

def sources (answers : SiteAnswers) (settings : RenderSettings) :
    PageCall → Except RenderError (Text × Text)
  | .named name _ =>
    (answers.sources [settings.iconTemplate, name]).bind fun _ ↦
      (answers.source settings.iconTemplate).bind fun icon ↦
        (answers.source name).bind fun source ↦ .ok (icon, source)
  | .given source _ => (answers.source settings.iconTemplate).bind fun icon ↦ .ok (icon, source)

/-- Whether the call comes as far as to have both its templates. -/
def isNumbered (answers : SiteAnswers) (settings : RenderSettings) (call : PageCall) : Bool :=
  match call.sources answers settings with
  | .ok (icon, source) => bothParse icon source
  | .error _ => false

/-- What the call comes to, by its number. -/
def result (answers : SiteAnswers) (r : Renderer StringCache) (number : UInt64) (call : PageCall) :
    Except RenderError Rendered :=
  (call.sources answers r.settings).bind fun sources ↦
    answers.page r number sources.1 sources.2 call.context

variable {σ : Type} {answers : SiteAnswers} {r : Renderer StringCache} {number : UInt64}

theorem yields_load (call : PageCall) :
    (call.load r).Yields (transport : Transport (LocalSite σ)) (answers.KnownMemory number)
      (call.sources answers r.settings) (answers.KnownMemory number) := by
  cases call with
  | named name context =>
    exact (yields_onTemplates (yields_resolveMany _)).andThen fun _ ↦
      (yields_onTemplates (yields_resolve _)).andThen fun icon ↦
        (yields_onTemplates (yields_resolve _)).andThen fun source ↦ Job.yields_pure
  | given source context =>
    exact (yields_onTemplates (yields_resolve _)).andThen fun icon ↦ Job.yields_pure

/-- **A call comes to what the answers decide**, whatever the renderer keeps. -/
theorem yields_job (hr : r.resolve = Localized.lookup) (call : PageCall) :
    (call.job r).Yields (transport : Transport (LocalSite σ)) (answers.KnownMemory number)
      (call.result answers r number)
      (answers.KnownMemory
        (if call.isNumbered answers r.settings then number + 1 else number)) := by
  have hload : (call.load r).Yields (transport : Transport (LocalSite σ))
      (answers.KnownMemory number) (call.sources answers r.settings)
      (answers.KnownMemory number) := yields_load call
  rw [job_eq, result, isNumbered]
  cases hsources : call.sources answers r.settings with
  | error e =>
    rw [hsources] at hload
    exact hload.andThen_error
  | ok sources =>
    rw [hsources] at hload
    exact hload.andThen_ok (yields_renderWithIcon hr sources.1 sources.2 call.context)

end PageCall

/-! ## Calls in turn -/

namespace Renderer

open SiteAnswers PageCall

variable {σ ρ : Type} {answers : SiteAnswers} {r : Renderer StringCache} {number : UInt64}

/-- The number after calls that start at a number. -/
def numberAfter (answers : SiteAnswers) (settings : RenderSettings) (number : UInt64)
    (calls : List PageCall) : UInt64 :=
  number + UInt64.ofNat (calls.countP (isNumbered answers settings))

theorem numberAfter_nil (settings : RenderSettings) :
    numberAfter answers settings number [] = number :=
  UInt64.add_zero number

theorem numberAfter_cons (settings : RenderSettings) (call : PageCall) (calls : List PageCall) :
    numberAfter answers settings number (call :: calls) =
      numberAfter answers settings
        (if call.isNumbered answers settings then number + 1 else number) calls := by
  rw [numberAfter, numberAfter, List.countP_cons]
  split
  · rw [UInt64.ofNat_add, UInt64.add_comm (UInt64.ofNat _), ← UInt64.add_assoc]
    rfl
  · rfl

/-- **Calls in turn come to what the answers decide.** -/
theorem yields_serve (hr : r.resolve = Localized.lookup) (calls : List PageCall) :
    (r.serve calls).Yields (transport : Transport (LocalSite σ)) (answers.KnownMemory number)
      (calls.mapIdx fun i call ↦
        call.result answers r (numberAfter answers r.settings number (calls.take i)))
      (answers.KnownMemory (numberAfter answers r.settings number calls)) := by
  induction calls generalizing number with
  | nil =>
    rw [numberAfter_nil]
    exact Job.yields_pure
  | cons call calls ih =>
    rw [List.mapIdx_cons, numberAfter_cons]
    -- The rest starts at the number that the first call leaves.
    refine (yields_job hr call).bind (ih.bind ?_)
    simp only [List.take_zero, List.take_succ_cons, numberAfter_nil, numberAfter_cons]
    exact Job.yields_pure

/-- What a renderer without anything kept has in memory. -/
def emptyMemory (number : UInt64) : RenderMemory StringCache where
  strings := []
  nextNumber := number

theorem knownMemory_emptyMemory {site : LocalSite σ} (h : answers.GivenBy site) (number : UInt64) :
    answers.KnownMemory number (emptyMemory number) site := by
  refine ⟨⟨fun name source hname ↦ ?_, h⟩, ⟨fun id text hid ↦ ?_, h⟩, rfl⟩
  · exact absurd hname (Option.not_mem_none source)
  · exact absurd hid (Option.not_mem_none text)

/-- **History is invisible.** Calls in turn on one renderer come to what each of them comes to on a
renderer that keeps nothing yet, with the number that it has in turn: one more than the earlier
calls that had both their templates. -/
theorem serve_eq_fresh (hr : r.resolve = Localized.lookup) {site : LocalSite σ}
    {fresh : LocalSite ρ} (hsite : answers.GivenBy site) (hfresh : answers.GivenBy fresh)
    (calls : List PageCall) :
    ((r.serve calls).run transport (emptyMemory 1) site).1 =
      calls.mapIdx fun i call ↦
        ((call.job r).run transport
          (emptyMemory (1 + UInt64.ofNat ((calls.take i).countP (isNumbered answers r.settings))))
          fresh).1 := by
  rw [(yields_serve hr calls _ _ (knownMemory_emptyMemory hsite 1)).1]
  refine congrArg (calls.mapIdx ·) (funext fun i ↦ funext fun call ↦ ?_)
  exact ((yields_job hr call _ _ (knownMemory_emptyMemory hfresh _)).1).symm

/-! ### A site that counts -/

/-- A site that gives the answers and counts how often its handlers run. -/
def countingSite (answers : SiteAnswers) (count : ℕ) : LocalSite ℕ where
  handlers := [
    (TemplateCache.method, fun args count ↦ ((answers.template args).map .string, count + 1)),
    (Localized.method, fun args count ↦
      match args.get? "strings".toList with
      | some (.array wanted) =>
          (.ok (.array (wanted.map fun w ↦ (answers.string w).toJson)), count + 1)
      | _ => (.ok (.array []), count + 1))]
  memory := count

theorem givenBy_countingSite (answers : SiteAnswers) (count : ℕ) :
    answers.GivenBy (countingSite answers count) where
  works := rfl
  template _ _ := rfl
  string args wanted memory hwanted := by
    change (match args.get? "strings".toList with
      | some (.array wanted) =>
        (Except.ok (Json.array (wanted.map fun w ↦ (answers.string w).toJson)), memory + 1)
      | _ => (.ok (.array []), memory + 1)).1 = _
    rw [hwanted]

/-- A site with an icon, a greeting and a template that is none. -/
def schoolAnswers : SiteAnswers where
  template args :=
    match args.get? "template".toList with
    | some (.string name) =>
      if name = "pix_icon".toList then .ok "<img>".toList
      else if name = "greeting".toList then
        .ok "\x7b\x7b#str\x7d\x7dhello, core\x7b\x7b/str\x7d\x7d \x7b\x7buniqid\x7d\x7d".toList
      else if name = "broken".toList then .ok "\x7b\x7b#open\x7d\x7d".toList
      else .error { message := "no such template".toList }
    | _ => .error { message := "no template named".toList }
  string _ := .record "Hello".toList

/-- Calls of which only the last two have both their templates. -/
def failingThenGreeting : List PageCall :=
  [.named "greeting".toList .null, .named "core/none".toList .null,
    .named "core/broken".toList .null, .named "core/greeting".toList .null,
    .named "core/greeting".toList .null]

theorem serve_eq_fresh_of_school :
    let r : Renderer StringCache := ⟨default, {}, Localized.lookup⟩
    let site := countingSite schoolAnswers
    let results := ((r.serve failingThenGreeting).run transport (emptyMemory 1) (site 0)).1
    results = failingThenGreeting.mapIdx (fun i call ↦
        ((call.job r).run transport (emptyMemory (1 + UInt64.ofNat
          ((failingThenGreeting.take i).countP (isNumbered schoolAnswers r.settings))))
          (site 5)).1) ∧
      results.filterMap Except.toOption = [⟨"Hello 1".toList, []⟩, ⟨"Hello 2".toList, []⟩] :=
  ⟨serve_eq_fresh rfl (givenBy_countingSite _ 0) (givenBy_countingSite _ 5) _, by decide +kernel⟩

end Renderer
end SiteClient
