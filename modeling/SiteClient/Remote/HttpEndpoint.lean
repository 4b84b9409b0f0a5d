import SiteClient.Remote.RoundTrip
import SiteClient.SiteConfig
import SiteClient.Url.Reader
/-!
# The endpoint of a site on the web

Batches are posted to one script below the root of the site. Root and path are joined by exactly one
slash, and what they make must be a URL. Batches go to web servers only: with any other scheme every
round trip fails before something is sent.
-/

namespace SiteClient

/-- Where a site takes batches. -/
structure HttpSettings where
  siteRoot : Text
  /-- The path of the script below the root. -/
  servicePath : Text
  deriving DecidableEq, Repr

namespace HttpSettings

/-- The usual script of a site. -/
def ofConfig (config : SiteConfig) : HttpSettings :=
  ⟨config.siteRoot, "/lib/ajax/service.php".toList⟩

/-- The usual script of a site on this machine. -/
def default : HttpSettings :=
  ofConfig .default

/-- The settings that have been met. -/
structure Partial where
  siteRoot : Option Text := none
  servicePath : Option Text := none

/-- How settings are read: what is left out has its default. -/
def record : Record Partial HttpSettings where
  name := "HttpSettings".toList
  empty := {}
  fields := [
    .of "wwwroot" Partial.siteRoot (fun p x ↦ { p with siteRoot := some x }) .text,
    .of "service_path" Partial.servicePath (fun p x ↦ { p with servicePath := some x }) .text]
  finish p := .ok {
    siteRoot := p.siteRoot.getD default.siteRoot
    servicePath := p.servicePath.getD default.servicePath }

/-- The settings that a JSON text spells. -/
def ofText (t : Text) : Except ReadError HttpSettings :=
  record.decoder.readText t

def toJson (settings : HttpSettings) : Json :=
  .ofFields [
    ("wwwroot".toList, .string settings.siteRoot),
    ("service_path".toList, .string settings.servicePath)]

/-- The root and the path, joined by one slash. -/
def joined (settings : HttpSettings) : Text :=
  Text.trimEndOf '/' settings.siteRoot ++ '/' :: Text.trimStartOf '/' settings.servicePath

def endpoint (settings : HttpSettings) : Except RemoteError Url :=
  (Url.parse settings.joined).mapError fun e ↦
    .transport ("invalid endpoint ".toList ++ settings.joined ++ ": ".toList ++ e.message)

end HttpSettings

namespace Url

/-- Whether batches can be posted to the URL. -/
def isPostable (url : Url) : Bool :=
  url.scheme = "http".toList || url.scheme = "https".toList

/-- The URL without the credentials in it. Credentials can be taken out if they can be sent: the
name must be text, and either there is a name or the password is text. -/
def withoutCredentials (url : Url) : Url :=
  match url.authority with
  | none => url
  | some authority =>
    let ⟨name, password⟩ := authority.credentials
    let isText (t : Text) : Bool := (Body.toText? (Percent.decode t.toBody)).isSome
    if isText name ∧ (name ≠ [] ∨ (password ≠ [] ∧ isText password)) then
      { url with authority := some { authority with credentials := {} } }
    else url

/-- The error for a URL that batches cannot be posted to. The credentials are taken out of the URL
before. -/
def refusal (url : Url) : RemoteError :=
  .transport ("Error: builder error for url (".toList ++ url.withoutCredentials.text ++ [')'])

/-- Round trips by `post` to a URL. -/
def transport {ω : Type} (url : Url) (post : Body → ω → Except RemoteError Body × ω) :
    Transport ω where
  name := "HTTP".toList
  roundTrip body site := if url.isPostable then post body site else (.error url.refusal, site)

end Url
end SiteClient
