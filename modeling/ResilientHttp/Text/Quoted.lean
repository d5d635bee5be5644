import ResilientHttp.Text.Invisible

/-!
Texts in descriptions. `quoted` writes a text between quotation marks so that it stays on one line
and every character can be told: marks, backslashes and line controls get a short escape,
characters without a visible form their number in braces.
-/

namespace ResilientHttp.Text

/-- A natural number in lower-case hexadecimal. -/
def hex (value : Nat) : String :=
  String.ofList (Nat.toDigits 16 value)

/-- One character of a quoted text. -/
def quotedChar (char : Char) : String :=
  if char = '\x22' then "\\\""
  else if char = '\\' then "\\\\"
  else if char = '\n' then "\\n"
  else if char = '\r' then "\\r"
  else if char = '\t' then "\\t"
  else if char.toNat = 0 then "\\0"
  else if isVisible char then String.singleton char
  else "\\u\x7b" ++ hex char.toNat ++ "\x7d"

/-- A text between quotation marks. -/
def quoted (text : String) : String :=
  "\"" ++ String.join (text.toList.map quotedChar) ++ "\""

/-- Items between an opening and a closing mark, with commas between them. -/
def enclosed (opening closing : String) (items : List String) : String :=
  opening ++ ", ".intercalate items ++ closing

/-- A record: its name and its fields. -/
def record (name : String) (fields : List (String × String)) : String :=
  enclosed (name ++ " \x7b ") " \x7d" (fields.map fun (key, value) => key ++ ": " ++ value)

/-- A record some of whose fields are not told. -/
def openRecord (name : String) (fields : List (String × String)) : String :=
  enclosed (name ++ " \x7b ") " \x7d" ((fields.map fun (key, value) => key ++ ": " ++ value) ++ [".."])

/-- A truth value. -/
def ofBool (value : Bool) : String :=
  if value then "true" else "false"

end ResilientHttp.Text
