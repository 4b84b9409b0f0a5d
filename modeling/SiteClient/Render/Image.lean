import SiteClient.SiteConfig
import SiteClient.Text.Blank
import SiteClient.Url.Form
/-!
# Image URLs

Images of a theme are served by one script of the site. It takes the theme, the component, the theme
revision and the image in the path, if the site accepts that and the theme has a revision, and in
the query otherwise.
-/

namespace SiteClient

/-- Where a site serves the images of its theme. -/
structure ImageSource where
  siteRoot : Text
  theme : Text
  themeRevision : Int64
  slashArguments : Bool
  deriving DecidableEq, Repr

namespace ImageSource

def ofConfig (config : SiteConfig) : ImageSource :=
  ⟨config.siteRoot, config.theme, config.themeRevision, config.slashArguments⟩

/-- The component that an image is looked up in: no component, `moodle` and `core` are one. -/
def component (t : Text) : Text :=
  match Text.trim t with
  | [] => "core".toList
  | name => if name = "moodle".toList then "core".toList else name

def script (source : ImageSource) : Text :=
  source.siteRoot ++ "/theme/image.php".toList

def revisionText (source : ImageSource) : Text :=
  Text.ofInt source.themeRevision.toInt

def url (source : ImageSource) (image of : Text) : Text :=
  if 0 < source.themeRevision ∧ source.slashArguments then
    source.script ++ '/' :: source.theme ++ '/' :: component of ++ '/' :: source.revisionText ++
      '/' :: image
  else
    source.script ++ '?' :: Form.query [
      ("theme".toList, source.theme),
      ("component".toList, component of),
      ("rev".toList, source.revisionText),
      ("image".toList, image)]

end ImageSource
end SiteClient
