import SiteClient.Remote.Job
import SiteClient.Template.Render
/-!
# Template sources by name

A template has a name of the form `component/template`, cut at the first slash. Sources that have
been fetched are kept for good, the first one stored for a name wins, and a failed fetch stores
nothing for its name. The sources of a batch are stored one at a time, so other jobs may store
theirs in between.
-/

namespace SiteClient

/-- Why a template is not rendered. -/
inductive RenderError where
  | remote (e : RemoteError)
  | templateName (name : Text)
  | template (e : TemplateError)
  deriving DecidableEq, Repr

namespace RenderError

def message : RenderError → Text
  | .remote e => e.message
  | .templateName name =>
    "invalid template name ".toList ++ Text.quoted name ++
      ", expected <component>/<template>".toList
  | .template e => e.message

end RenderError

/-- The template sources that have been fetched. -/
abbrev TemplateCache := List (Text × Text)

namespace TemplateCache

def get? (cache : TemplateCache) (name : Text) : Option Text :=
  cache.lookup name

/-- Stores a source, unless there is one already. -/
def store (cache : TemplateCache) (name source : Text) : TemplateCache :=
  if (cache.get? name).isSome then cache else cache ++ [(name, source)]

/-- The component and the template in a name. -/
def splitName (name : Text) : Except RenderError (Text × Text) :=
  match Text.breakOn ['/'] name with
  | some (c :: component, t :: template) => .ok (c :: component, t :: template)
  | _ => .error (.templateName name)

/-- The function of the site that answers with a template source. -/
def method : Text := "core_output_load_template".toList

/-- The call for a template. -/
def loadCall (component template : Text) : Call :=
  (Call.arg ⟨method, []⟩ "component".toList (.string component)).arg "template".toList
    (.string template)

/-- Takes the result of the call for a template: the source that is now stored, or the error of the
call. -/
def keep (name : Text) (result : CallResult) : Job TemplateCache (Except RenderError Text) :=
  match result.payload .text method with
  | .error e => return .error (.remote e)
  | .ok source => Job.modifyGet fun cache ↦
    let cache := cache.store name source
    (.ok ((cache.get? name).getD source), cache)

/-- Takes the results of the calls for templates in order, up to the first without a source. -/
def keepAll : List Text → List CallResult → Job TemplateCache (Except RenderError (List Text))
  | name :: names, result :: results =>
    (keep name result).andThen fun source ↦
      (keepAll names results).andThen fun sources ↦ return .ok (source :: sources)
  | _, _ => return .ok []

/-- Fetches templates in one batch, one call for each name. -/
def fetch (names : List Text) : Job TemplateCache (Except RenderError (List Text)) := do
  if names = [] then return .ok []
  match names.mapM splitName with
  | .error e => return .error e
  | .ok parts =>
    let results ← Job.send (parts.map fun (component, template) ↦ loadCall component template)
    keepAll names results

/-- The source of a template, fetched if it is not there. -/
def resolve (name : Text) : Job TemplateCache (Except RenderError Text) := do
  match splitName name with
  | .error e => return .error e
  | .ok _ =>
    match (← Job.get).get? name with
    | some source => return .ok source
    | none => (fetch [name]).andThen fun sources ↦ return .ok (sources.getLastD [])

/-- A name that is being resolved: its source, or its place among the names to fetch. -/
inductive Place where
  | stored (source : Text)
  | fetched (index : Nat)

/-- Where the source of each name comes from, and the names to fetch, each once. The first name that
is none is reported. -/
def plan (cache : TemplateCache) :
    (missing : List Text) → (names : List Text) → Except RenderError (List Place × List Text)
  | missing, [] => .ok ([], missing)
  | missing, name :: names => do
    let _ ← splitName name
    match cache.get? name with
    | some source =>
      let (places, missing) ← plan cache missing names
      return (.stored source :: places, missing)
    | none =>
      let missing := if name ∈ missing then missing else missing ++ [name]
      let index := missing.idxOf name
      let (places, missing) ← plan cache missing names
      return (.fetched index :: places, missing)

def Place.source (fetched : List Text) : Place → Text
  | .stored source => source
  | .fetched index => fetched.getD index []

/-- The sources of templates, in order. What is missing is fetched in one batch. -/
def resolveMany (names : List Text) : Job TemplateCache (Except RenderError (List Text)) := do
  match (← Job.get).plan [] names with
  | .error e => return .error e
  | .ok (places, missing) =>
    (fetch missing).andThen fun fetched ↦ return .ok (places.map (Place.source fetched))

end TemplateCache
end SiteClient
