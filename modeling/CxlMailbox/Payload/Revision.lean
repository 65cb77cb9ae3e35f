/-
# CxlMailbox.Payload.Revision — firmware revision fields

A revision is a field of sixteen bytes that holds a text, filled up with NUL. Text that does not
fit is cut after sixteen bytes, even inside a character; reading shows U+FFFD for what is left
of it, and drops white space at both ends.
-/
import CxlMailbox.Bytes
import CxlMailbox.Text.Blank
import CxlMailbox.Text.Utf8

namespace CxlMailbox

set_option autoImplicit false

/-- A revision field. -/
abbrev Revision := Block 16

namespace Revision

/-- The field of a text. -/
def ofText (text : String) : Revision := Block.ofBytes 16 (Text.Utf8.encode text)

/-- The text of a field. -/
def text (revision : Revision) : String :=
  String.ofList (Text.trim (Text.Utf8.decodeLossy (revision.bytes.takeWhile (· ≠ 0))))

end Revision

end CxlMailbox
