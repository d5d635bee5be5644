import ResilientHttp.Url.Label
import ResilientHttp.Url.Percent

/-!
Domains. A domain is folded to lower case and to its canonical form, and each of its labels is read.
If one of them is written from right to left, all have one direction each. What is left must not
hold a character with a meaning of its own in a URL.
-/

namespace ResilientHttp.Url

/-- Characters that no domain holds. -/
def isForbidden (char : Char) : Bool :=
  char.toNat ≤ 0x20 || char.toNat = 0x7F || "%#/:<>?@[\\]^|".contains char

/-- The labels of a domain, if all can be read. -/
def labels? (text : List Char) : Option (List Label) := do
  let folded ← text.mapM fold?
  (folded.flatten.splitOn '.').mapM fun label => Label.read? (Text.canonical label)

/-- Whether labels may stand together: if a direction turns in one of them, each has one. -/
def directionsFit (labels : List Label) : Bool :=
  !labels.any (·.meant.any Text.turnsText) || labels.all (Text.hasOneDirection ·.meant)

/-- The domain that a host stands for, in ASCII. -/
def domain? (host : List Char) : Option (List Char) := do
  let text ← Utf8.decode? (percentDecode (Utf8.encode (String.ofList host)))
  let labels ← labels? text.toList
  let domain := ['.'].intercalate (labels.map (·.written))
  if directionsFit labels && !domain.any isForbidden then some domain else none

end ResilientHttp.Url
