import SiteClient.Localized.Format
import SiteClient.Localized.Request
import SiteClient.Remote.Job
/-!
# Loading localized strings

Strings that have been loaded are kept for good. A lookup asks the site, in one call, for the
strings that it misses, each once and in the order of the requests, and keeps them if the answer has
a text for every one of them. A string that another lookup has stored in the meantime stays as it
is.
-/

namespace SiteClient

/-- The strings that have been loaded. -/
abbrev StringCache := List (StringId × Text)

namespace StringCache

def get? (cache : StringCache) (id : StringId) : Option Text :=
  cache.lookup id

/-- Stores a text, unless there is one already. -/
def store (cache : StringCache) (id : StringId) (text : Text) : StringCache :=
  if (cache.get? id).isSome then cache else cache ++ [(id, text)]

/-- The strings that are requested and not loaded, each once. -/
def missing (cache : StringCache) (requests : List StringRequest) : List StringId :=
  requests.foldl (fun found r ↦
    if (cache.get? r.id).isSome || r.id ∈ found then found else found ++ [r.id]) []

end StringCache

namespace Localized

/-- The function of the site that answers with strings. -/
def method : Text := "core_get_strings".toList

/-- The call for strings. -/
def loadCall (ids : List StringId) : Call :=
  Call.arg ⟨method, []⟩ "strings".toList <| .array <| ids.map fun id ↦
    .ofFields [("stringid".toList, .string id.key), ("component".toList, .string id.component)]

/-- The text in an entry of the answer: a string, or a record with the string in it. -/
def entryText : Json → Except RemoteError Text
  | .string t => .ok t
  | .object fields =>
    match Fields.get? fields "string".toList with
    | some (.string t) => .ok t
    | _ => .error (.serialization "string record without text".toList)
  | v => .error (.serialization ("unexpected string entry: ".toList ++ v.text))

def texts : Json → Except RemoteError (List Text)
  | .array entries => entries.mapM entryText
  | _ => .error (.serialization "string list payload is not an array".toList)

/-- The error for an answer with another number of strings than were asked for. -/
def countError (asked got : Nat) : RemoteError :=
  .serialization
    ("asked for ".toList ++ Text.ofNat asked ++ " strings, got ".toList ++ Text.ofNat got)

/-- The texts for `ids` in the result of the call. -/
def received (ids : List StringId) (result : CallResult) : Except RemoteError (List Text) := do
  let found ← texts (← result)
  if found.length = ids.length then return found else throw (countError ids.length found.length)

/-- Loads the strings that are missing. -/
def loadMissing (requests : List StringRequest) : Job StringCache (Except RemoteError Unit) := do
  let ids := (← Job.get).missing requests
  if ids = [] then return .ok ()
  match received ids (← Job.sendOne (loadCall ids)) with
  | .error e => return .error e
  | .ok found =>
    Job.modify fun cache ↦ (ids.zip found).foldl (fun cache (id, text) ↦ cache.store id text) cache
    return .ok ()

/-- The error for a string that is not there although it has been loaded. -/
def lostError (id : StringId) : RemoteError :=
  .serialization
    ("string ".toList ++ id.component ++ '/' :: id.key ++ " missing after fetch".toList)

/-- The text for a request, filled with its parameter. -/
def fulfil (cache : StringCache) (r : StringRequest) : Except RemoteError Text :=
  match cache.get? r.id with
  | some text => .ok (format text r.param)
  | none => .error (lostError r.id)

/-- Looks up strings: one text for each request, in order. -/
def lookup (requests : List StringRequest) : Job StringCache (Except RemoteError (List Text)) :=
  (loadMissing requests).andThen fun () ↦ do return requests.mapM (fulfil (← Job.get))

end Localized
end SiteClient
