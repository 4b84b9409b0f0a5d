import SiteClient.Json.Printer
import SiteClient.Json.Record
/-!
# Site configuration

What a page knows about the site it belongs to. The configuration comes as a JSON object in which
any field may be left out and others may stand; a site root is kept without slashes at its end, so
that a path can be put behind it.
-/

namespace SiteClient

/-- The configuration of a site. -/
structure SiteConfig where
  siteRoot : Text
  /-- The lifetime of a session in seconds. -/
  sessionTimeout : UInt64
  theme : Text
  /-- The revision of the theme; not positive while the theme is being worked on. -/
  themeRevision : Int64
  /-- Whether the site accepts arguments in the path of a URL. -/
  slashArguments : Bool
  sessionKey : Text
  deriving DecidableEq, Repr

namespace SiteConfig

/-- A site on this machine with the usual settings. -/
def default : SiteConfig where
  siteRoot := "http://localhost".toList
  sessionTimeout := 7200
  theme := "boost".toList
  themeRevision := -1
  slashArguments := true
  sessionKey := []

instance : Inhabited SiteConfig := ⟨default⟩

/-- The fields of a configuration that have been met. -/
structure Partial where
  siteRoot : Option Text := none
  sessionTimeout : Option UInt64 := none
  theme : Option Text := none
  themeRevision : Option Int64 := none
  slashArguments : Option Bool := none
  sessionKey : Option Text := none

/-- How a configuration is read: what is left out has its default. -/
def record : Record Partial SiteConfig where
  name := "SiteConfig".toList
  empty := {}
  fields := [
    .of "wwwroot" Partial.siteRoot (fun p x ↦ { p with siteRoot := some x }) .text,
    .of "sessiontimeout" Partial.sessionTimeout (fun p x ↦ { p with sessionTimeout := some x })
      (.uint64 "u64".toList),
    .of "theme" Partial.theme (fun p x ↦ { p with theme := some x }) .text,
    .of "themerev" Partial.themeRevision (fun p x ↦ { p with themeRevision := some x })
      (.int64 "i64".toList),
    .of "slasharguments" Partial.slashArguments
      (fun p x ↦ { p with slashArguments := some x }) .bool,
    .of "sesskey" Partial.sessionKey (fun p x ↦ { p with sessionKey := some x }) .text]
  finish p := .ok {
    siteRoot := p.siteRoot.getD default.siteRoot
    sessionTimeout := p.sessionTimeout.getD default.sessionTimeout
    theme := p.theme.getD default.theme
    themeRevision := p.themeRevision.getD default.themeRevision
    slashArguments := p.slashArguments.getD default.slashArguments
    sessionKey := p.sessionKey.getD default.sessionKey }

def ofText (t : Text) : Except ReadError SiteConfig := do
  let config ← record.decoder.readText t
  return { config with siteRoot := Text.trimEndOf '/' config.siteRoot }

def toJson (config : SiteConfig) : Json :=
  .ofFields [
    ("wwwroot".toList, .string config.siteRoot),
    ("sessiontimeout".toList, .number (.ofUInt64 config.sessionTimeout)),
    ("theme".toList, .string config.theme),
    ("themerev".toList, .number (.ofInt64 config.themeRevision)),
    ("slasharguments".toList, .bool config.slashArguments),
    ("sesskey".toList, .string config.sessionKey)]

/-- The URL of a path below the site root. -/
def url (config : SiteConfig) (path : Text) : Text :=
  config.siteRoot ++ '/' :: Text.trimStartOf '/' path

end SiteConfig
end SiteClient
