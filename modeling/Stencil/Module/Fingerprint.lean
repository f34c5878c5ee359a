import Stencil.Digest.Sha256
import Stencil.Text.Blank
import Stencil.Text.Search

/-! Fingerprints of template sources, and the cleaning of a source before it is compiled. -/
namespace Stencil

/-- A tag mixed into every fingerprint. A new tag makes all written artifacts invalid. -/
def formatTag : String := "prep-format-1"

/-- The digest of a source followed by the format tag, in hexadecimal digits. -/
def fingerprint (source : List Char) : List Char :=
  (Sha256.digest (Text.bytes (source ++ formatTag.toList))).hex

def cleanSource (source : List Char) : List Char :=
  Text.join ['\n'] ((Text.splitLines source).map Text.trimEnd)

end Stencil
