import ResilientHttp.Text.Canonical
import ResilientHttp.Text.Direction
import ResilientHttp.Text.Joining
import ResilientHttp.Url.Folding
import ResilientHttp.Url.Punycode

/-!
Labels of domains. A label is meant in any characters and written in ASCII: as it is, or in Punycode
behind `xn--`. `Label.read?` takes a folded label in either form. What is meant has to be in the
form that folding gives, begins with no mark, and holds joiners only where they change how letters
are written.
-/

namespace ResilientHttp.Url

/-- A label as it is written and as it is meant. -/
structure Label where
  written : List Char
  meant : List Char
  deriving DecidableEq, Repr

/-- The mark of a label in Punycode. -/
def punycodeMark : List Char := ['x', 'n', '-', '-']

/-- The greatest length of a label in Punycode, without its mark. -/
def punycodeLimit : Nat := 2000

/-- The greatest length of what a label of other characters means. -/
def meantLimit : Nat := 1000

/-- Whether all characters are ASCII. -/
def isAscii (chars : List Char) : Bool := chars.all (·.toNat < 0x80)

/-- Keeps letters apart that would be joined. -/
def nonJoiner : Char := '\u200c'

/-- Joins letters that would stand apart. -/
def joiner : Char := '\u200d'

/-- Whether a joiner has a meaning between the characters before it, last first, and those behind
it: behind a mark that takes a vowel, and to keep letters apart. -/
def joinerFits (char : Char) (before behind : List Char) : Bool :=
  match before with
  | [] => false
  | last :: _ =>
    Text.combiningClass last = Text.vowelKillerClass ||
      (char = nonJoiner && Text.joinsAcross before behind)

/-- Whether every joiner fits; the characters before, last first, were looked at. -/
def joinersFit (before : List Char) : List Char → Bool
  | [] => true
  | char :: rest =>
    (if char = nonJoiner || char = joiner then joinerFits char before rest else true) &&
      joinersFit (char :: before) rest

/-- Whether a label may mean some characters. -/
def isMeaning (meant : List Char) : Bool :=
  !meant.head?.any Text.isMark && joinersFit [] meant &&
    (isAscii meant || meant.length ≤ meantLimit)

/-- Whether characters are in the form that folding gives. -/
def isFolded (chars : List Char) : Bool :=
  chars.all (fun char => fold? char = some [char]) && Text.canonical chars = chars

/-- The label that stands behind the mark of Punycode. -/
def Label.ofPunycode? (content : List Char) : Option Label := do
  if content.length > punycodeLimit ∨ content.getLast? = some '-' then none
  else
    let meant ← Punycode.decode? content
    if !isAscii meant && isFolded meant && isMeaning meant && Punycode.encode meant = content then
      some ⟨punycodeMark ++ content, meant⟩
    else none

/-- The label that folded characters are. -/
def Label.read? (label : List Char) : Option Label :=
  match punycodeMark.isPrefixOf? label with
  | some content => if isAscii content then Label.ofPunycode? content else none
  | none =>
    if isAscii label then some ⟨label, label⟩
    else if isMeaning label then some ⟨punycodeMark ++ Punycode.encode label, label⟩
    else none

end ResilientHttp.Url
