import ResilientHttp.Text.Hex

/-!
Tables of characters written as text. A table is a sequence of words with blanks or line ends
between them, and its numbers are hexadecimal. The word `41-5A` is a range of characters, `AA` a
single one. The word `41-5A>61` says that each character of a range becomes the one as far behind
`61` as it is behind `41`; with `/2` behind the range only every second one does, and numbers behind
a comma name further characters that it becomes.
-/

namespace ResilientHttp.Text

/-- The characters from a first to a last number. -/
structure Range where
  first : Nat
  last : Nat
  deriving DecidableEq, Repr

/-- Whether a character lies in a range. -/
def Range.contains (range : Range) (char : Char) : Bool :=
  range.first ≤ char.toNat && char.toNat ≤ range.last

/-- Whether a character lies in one of some ranges. -/
def isAmong (ranges : List Range) (char : Char) : Bool := ranges.any (·.contains char)

/-- What a range of characters becomes: every `step`-th of them one character in a sequence that
starts at `target`, and `further` characters. -/
structure Row where
  range : Range
  step : Nat
  target : Nat
  further : List Nat
  deriving DecidableEq, Repr

/-- Whether a row is about a character. -/
def Row.covers (row : Row) (char : Char) : Bool :=
  row.range.contains char && (char.toNat - row.range.first) % row.step == 0

/-- What a row makes of a character that it is about. -/
def Row.image (row : Row) (char : Char) : List Char :=
  ((row.target + (char.toNat - row.range.first)) :: row.further).map Char.ofNat

/-- What the first row about a character makes of it. -/
def image? (rows : List Row) (char : Char) : Option (List Char) :=
  (rows.find? (·.covers char)).map (·.image char)

/-- The number that hexadecimal digits write. -/
def hexNumber (digits : List Char) : Nat :=
  digits.foldl (fun value digit => value * 16 + (Hex.digit? digit).getD 0) 0

/-- The words of a table. -/
def words (text : String) : List (List Char) :=
  (text.toList.splitOnP fun char => char = ' ' || char = '\n').filter (· ≠ [])

/-- What stands in front of a mark, and what stands behind it, if anything. -/
def splitAtMark (mark : Char) (word : List Char) : List Char × List Char :=
  (word.takeWhile (· ≠ mark), (word.dropWhile (· ≠ mark)).drop 1)

/-- The range that a word writes. -/
def Range.ofWord (word : List Char) : Range :=
  match splitAtMark '-' word with
  | (first, []) => ⟨hexNumber first, hexNumber first⟩
  | (first, last) => ⟨hexNumber first, hexNumber last⟩

/-- The row that a word writes. -/
def Row.ofWord (word : List Char) : Row :=
  let (source, target) := splitAtMark '>' word
  let (range, step) := splitAtMark '/' source
  let step := if step = [] then 1 else hexNumber step
  match (target.splitOn ',').map hexNumber with
  | [] => ⟨.ofWord range, step, 0, []⟩
  | first :: further => ⟨.ofWord range, step, first, further⟩

/-- The ranges of a table. -/
def ranges (table : String) : List Range := (words table).map Range.ofWord

/-- The rows of a table. -/
def rows (table : String) : List Row := (words table).map Row.ofWord

end ResilientHttp.Text
