import ResilientHttp.Decimal.Text

/-!
JSON values. Whole numbers are kept apart from numbers with a fraction or an exponent, since the
two are written differently. Objects that were read list their fields in ascending order of names,
each name once: `insertField` keeps that order and lets the last value of a name win.
-/

namespace ResilientHttp.Json

open ResilientHttp.Decimal (Binary)

/-- A number: a whole one of any size, or a binary one of either format. -/
inductive Number where
  | whole (value : Int)
  | double (value : Binary)
  | single (value : Binary)
  deriving DecidableEq, Repr

end Json

/-- A JSON value. -/
inductive Json where
  | null
  | bool (value : Bool)
  | number (value : Json.Number)
  | string (value : String)
  | array (items : List Json)
  | object (fields : List (String × Json))
  deriving Repr, BEq

namespace Json

/-- A field list with one field set: names stay in ascending order and occur once. -/
def insertField (name : String) (value : α) : List (String × α) → List (String × α)
  | [] => [(name, value)]
  | (other, old) :: rest =>
    if name = other then (name, value) :: rest
    else if name < other then (name, value) :: (other, old) :: rest
    else (other, old) :: insertField name value rest

/-- The value of a name in a field list. -/
def lookupField? (name : String) : List (String × α) → Option α
  | [] => none
  | (other, value) :: rest => if name = other then some value else lookupField? name rest

end Json
end ResilientHttp
