import ResilientHttp.Json.Value
import ResilientHttp.Text.Quoted

/-!
Why JSON was refused. A `Cause` is a fault of the text, or a well-formed value of the wrong kind,
range or shape; an `Error` adds the place in the text, if it was found while reading one. The
wording is in `Cause.message` and `Error.message` alone.
-/

namespace ResilientHttp.Json

open ResilientHttp.Decimal (Binary Format)

/-- A value that was found where another kind was expected. -/
inductive Found where
  | null
  | bool (value : Bool)
  | whole (value : Int)
  | fraction (value : Binary)
  | string (value : String)
  | sequence
  | map
  deriving DecidableEq, Repr

/-- The kinds of refusal. -/
inductive Cause where
  | endOfValue
  | endOfList
  | endOfObject
  | endOfString
  | expectedColon
  | expectedCommaOrBracket
  | expectedCommaOrBrace
  | expectedValue
  | expectedWord
  | invalidEscape
  | invalidNumber
  | numberOutOfRange
  | invalidUnicode
  | controlCharacter
  | keyNotString
  | floatKeyNotFinite
  | loneSurrogate
  | trailingComma
  | trailingCharacters
  | unfinishedSurrogate
  | tooDeep
  | invalidType (found : Found) (expected : String)
  | invalidValue (found : Found) (expected : String)
  | invalidLength (length : Nat) (expected : String)
  | missingField (name : String)
  | duplicateField (name : String)
  | unknownVariant (name : String) (known : List String)
  | custom (text : String)
  deriving DecidableEq, Repr

/-- A place in a text: lines are counted from one, columns are octets since the line's start. -/
structure Position where
  line : Nat
  column : Nat
  deriving DecidableEq, Repr

/-- A refusal and where it was noticed. -/
structure Error where
  cause : Cause
  position : Option Position
  deriving DecidableEq, Repr

/-- A name between back quotes. -/
def ticked (name : String) : String := "\x60" ++ name ++ "\x60"

/-- A found value as errors describe it. -/
def Found.describe : Found → String
  | .null => "null"
  | .bool value => "boolean " ++ ticked (Text.ofBool value)
  | .whole value => "integer " ++ ticked (toString value)
  | .fraction value => "floating point " ++ ticked ((value.text? .double).getD "NaN")
  | .string value => "string " ++ Text.quoted value
  | .sequence => "sequence"
  | .map => "map"

/-- Alternatives in prose. -/
def alternatives : List String → String
  | [] => "there are no variants"
  | [one] => "expected " ++ ticked one
  | [one, other] => "expected " ++ ticked one ++ " or " ++ ticked other
  | many => "expected one of " ++ ", ".intercalate (many.map ticked)

/-- The wording of a refusal. -/
def Cause.message : Cause → String
  | .endOfValue => "EOF while parsing a value"
  | .endOfList => "EOF while parsing a list"
  | .endOfObject => "EOF while parsing an object"
  | .endOfString => "EOF while parsing a string"
  | .expectedColon => "expected \x60:\x60"
  | .expectedCommaOrBracket => "expected \x60,\x60 or \x60]\x60"
  | .expectedCommaOrBrace => "expected \x60,\x60 or \x60\x7d\x60"
  | .expectedValue => "expected value"
  | .expectedWord => "expected ident"
  | .invalidEscape => "invalid escape"
  | .invalidNumber => "invalid number"
  | .numberOutOfRange => "number out of range"
  | .invalidUnicode => "invalid unicode code point"
  | .controlCharacter =>
    "control character (\\u0000-\\u001F) found while parsing a string"
  | .keyNotString => "key must be a string"
  | .floatKeyNotFinite => "float key must be finite (got NaN or +/-inf)"
  | .loneSurrogate => "lone leading surrogate in hex escape"
  | .trailingComma => "trailing comma"
  | .trailingCharacters => "trailing characters"
  | .unfinishedSurrogate => "unexpected end of hex escape"
  | .tooDeep => "recursion limit exceeded"
  | .invalidType found expected =>
    "invalid type: " ++ found.describe ++ ", expected " ++ expected
  | .invalidValue found expected =>
    "invalid value: " ++ found.describe ++ ", expected " ++ expected
  | .invalidLength length expected =>
    "invalid length " ++ toString length ++ ", expected " ++ expected
  | .missingField name => "missing field " ++ ticked name
  | .duplicateField name => "duplicate field " ++ ticked name
  | .unknownVariant name known =>
    "unknown variant " ++ ticked name ++ ", " ++ alternatives known
  | .custom text => text

/-- The wording of a refusal with its place. -/
def Error.message (error : Error) : String :=
  match error.position with
  | none => error.cause.message
  | some position =>
    error.cause.message ++ " at line " ++ toString position.line ++
      " column " ++ toString position.column

/-- What stands in front of the line of a place. -/
def lineMark : List Char := " at line ".toList

/-- What stands in front of the column of a place. -/
def columnMark : List Char := " column ".toList

/-- The number that digits write, if there are any and it fits 64 bits. -/
def placeNumber? (digits : List Char) : Option Nat := do
  let value ← (String.ofList digits).toNat?
  if value < UInt64.size then some value else none

/-- The place that a text is, from the mark of the line to its end. -/
def Position.ofMarked? (text : List Char) : Option Position := do
  let marked ← lineMark.isPrefixOf? text
  let line ← placeNumber? (marked.takeWhile Char.isDigit)
  let written ← columnMark.isPrefixOf? (marked.dropWhile Char.isDigit)
  let column ← placeNumber? written
  if written.all Char.isDigit then some ⟨line, column⟩ else none

/-- A text that ends in a place: the words in front of it, and the place. -/
def splitPlace? : List Char → Option (List Char × Position)
  | [] => none
  | char :: rest =>
    match Position.ofMarked? (char :: rest) with
    | some position => some ([], position)
    | none => (splitPlace? rest).map fun (words, position) => (char :: words, position)

/-- A refusal in words of its own. A place at their end is taken for the place of the refusal, and
one in a line before the first for none. -/
def Error.ofWords (text : String) : Error :=
  match splitPlace? text.toList with
  | some (words, position) =>
    ⟨.custom (String.ofList words), if position.line = 0 then none else some position⟩
  | none => ⟨.custom text, none⟩

/-- A value's kind, as found where another was expected. -/
def found : Json → Found
  | .null => .null
  | .bool value => .bool value
  | .number (.whole value) => .whole value
  | .number (.double value) => .fraction value
  | .number (.single value) => .fraction value
  | .string value => .string value
  | .array _ => .sequence
  | .object _ => .map

end ResilientHttp.Json
