import ResilientHttp.Json.Error
import ResilientHttp.Text.Hex

/-!
JSON in compact form: no blanks, fields in the order of the list, and in strings only the quotation
mark, the backslash and the controls below the blank escaped. `Source` is what can be asked to be
written: a value, octets as a list of numbers, a map whose keys are not strings yet, or something
that refuses; only keys and refusals can fail.
-/

namespace ResilientHttp.Json

open ResilientHttp.Decimal (Binary Format)

/-- One character of a string. -/
def escapeChar (char : Char) : List Char :=
  if char = '\x22' then ['\\', '\x22']
  else if char = '\\' then ['\\', '\\']
  else if char.toNat = 0x08 then ['\\', 'b']
  else if char.toNat = 0x09 then ['\\', 't']
  else if char.toNat = 0x0A then ['\\', 'n']
  else if char.toNat = 0x0C then ['\\', 'f']
  else if char.toNat = 0x0D then ['\\', 'r']
  else if char.toNat < 0x20 then
    ['\\', 'u', '0', '0', Hex.digit (char.toNat / 16), Hex.digit (char.toNat % 16)]
  else [char]

/-- A string between quotation marks. -/
def printString (text : String) : List Char :=
  '\x22' :: (text.toList.flatMap escapeChar ++ ['\x22'])

/-- A number; one that is not finite is written as null. -/
def Number.print : Number → List Char
  | .whole value => (toString value).toList
  | .double value => ((value.text? .double).getD "null").toList
  | .single value => ((value.text? .single).getD "null").toList

mutual

/-- A value in compact form. -/
def print : Json → List Char
  | .null => ['n', 'u', 'l', 'l']
  | .bool true => ['t', 'r', 'u', 'e']
  | .bool false => ['f', 'a', 'l', 's', 'e']
  | .number value => value.print
  | .string value => printString value
  | .array items => '[' :: printItems items
  | .object fields => '\x7b' :: printFields fields

/-- The items of a list up to the closing bracket. -/
def printItems : List Json → List Char
  | [] => [']']
  | [item] => print item ++ [']']
  | item :: next :: rest => print item ++ ',' :: printItems (next :: rest)

/-- The fields of an object up to the closing brace. -/
def printFields : List (String × Json) → List Char
  | [] => ['\x7d']
  | [(name, value)] => printString name ++ ':' :: (print value ++ ['\x7d'])
  | (name, value) :: next :: rest =>
    printString name ++ ':' :: (print value ++ ',' :: printFields (next :: rest))

end

/-- The text of a value. -/
def text (value : Json) : String :=
  String.ofList (print value)

/-- A key that is made a string when it is written. -/
inductive Key where
  | string (value : String)
  | whole (value : Int)
  | bool (value : Bool)
  | double (value : Binary)
  | char (value : Char)
  | notAtom
  deriving DecidableEq, Repr

/-- The string of a key: atoms are written as text, all else is refused. -/
def Key.text : Key → Except Cause String
  | .string value => .ok value
  | .whole value => .ok (toString value)
  | .bool value => .ok (Text.ofBool value)
  | .double value =>
    match value.text? .double with
    | some text => .ok text
    | none => .error .floatKeyNotFinite
  | .char value => .ok (String.singleton value)
  | .notAtom => .error .keyNotString

/-- What can be asked to be written as JSON. -/
inductive Source where
  | value (json : Json)
  | octets (payload : Octets)
  | keyed (fields : List (Key × Json))
  | failing (text : String)
  deriving Repr

/-- The object that fields with keys of any kind stand for. -/
def namedFields (fields : List (Key × Json)) : Except Cause Json := do
  let named ← fields.mapM fun entry => do
    let name ← entry.1.text
    pure (name, entry.2)
  pure (.object named)

/-- The value that a source stands for. -/
def Source.value? : Source → Except Error Json
  | .value json => .ok json
  | .octets payload => .ok (.array (payload.map fun octet => .number (.whole octet.toNat)))
  | .keyed fields => (namedFields fields).mapError (⟨·, none⟩)
  | .failing text => .error (.ofWords text)

/-- The octets of a source in compact form. -/
def Source.encode (source : Source) : Except Error Octets := do
  let json ← source.value?
  pure (Utf8.encode (String.ofList (print json)))

end ResilientHttp.Json
