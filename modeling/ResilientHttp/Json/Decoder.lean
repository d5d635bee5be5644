import ResilientHttp.Json.Reader

/-!
Decoding JSON into other types. A `Decoder` reads its type in two ways, straight from a text and
from a value that was read before; the first names places in its refusals, the second does not.
A `Record` describes a structure once for both ways and for both shapes, an object in any order of
fields or a list in their declared order: every field stores into a state that begins as the
default.
-/

namespace ResilientHttp.Json

/-- How a type is read from a text and from a value. -/
structure Decoder (α : Type) where
  fromText : Reader α
  fromValue : Json → Except Cause α

namespace Reader

/-- The value that comes next, as found where another kind was expected; brackets stay unread. -/
def foundNext : Reader Found := do
  match ← peek with
  | some 0x6E =>
    skip
    word [0x75, 0x6C, 0x6C]
    pure .null
  | some 0x74 =>
    skip
    word [0x72, 0x75, 0x65]
    pure (.bool true)
  | some 0x66 =>
    skip
    word [0x61, 0x6C, 0x73, 0x65]
    pure (.bool false)
  | some 0x22 =>
    let text ← quotedString
    pure (.string text)
  | some 0x5B => pure .sequence
  | some 0x7B => pure .map
  | some octet =>
    if octet = 0x2D ∨ isDigit octet then
      let read ← number
      pure (found (.number read))
    else failNext .expectedValue
  | none => failNext .expectedValue

/-- Refuses the value that comes next because another kind was expected. -/
def wrongType (expected : String) : Reader α :=
  placed do
    let seen ← foundNext
    refuse (.invalidType seen expected)

/-- Refuses a text that ends where a value should begin. -/
def peekValue : Reader UInt8 := do
  match ← peekBlank with
  | some octet => pure octet
  | none => failNext .endOfValue

end Reader

namespace Decoder

open Reader (peekBlank peekValue failNext refuse placed skip word wrongType closedBy nested)

/-- Any value. -/
def any : Decoder Json where
  fromText := Reader.value
  fromValue := .ok

/-- A truth value. -/
def bool : Decoder Bool where
  fromText := do
    match ← peekValue with
    | 0x74 =>
      skip
      word [0x72, 0x75, 0x65]
      pure true
    | 0x66 =>
      skip
      word [0x61, 0x6C, 0x73, 0x65]
      pure false
    | _ => wrongType "a boolean"
  fromValue
    | .bool value => .ok value
    | other => .error (.invalidType (found other) "a boolean")

/-- A whole number between two bounds, under the name of its kind. -/
def boundedNumber (name : String) (low high : Int) : Number → Except Cause Int
  | .whole value =>
    if low ≤ value ∧ value ≤ high then .ok value
    else .error (.invalidValue (.whole value) name)
  | other => .error (.invalidType (found (.number other)) name)

/-- A whole number between two bounds. -/
def bounded (name : String) (low high : Int) : Decoder Int where
  fromText := do
    let octet ← peekValue
    if octet = 0x2D ∨ isDigit octet then
      placed do
        let read ← Reader.number
        Reader.ofExcept (boundedNumber name low high read)
    else wrongType name
  fromValue
    | .number read => boundedNumber name low high read
    | other => .error (.invalidType (found other) name)

/-- Another type read by way of a first one. -/
def map (f : α → β) (decoder : Decoder α) : Decoder β where
  fromText := do
    let value ← decoder.fromText
    pure (f value)
  fromValue json := (decoder.fromValue json).map f

/-- A whole number below `2 ^ 8`. -/
def uint8 : Decoder UInt8 := (bounded "u8" 0 255).map fun value => UInt8.ofNat value.toNat

/-- A whole number below `2 ^ 16`. -/
def uint16 : Decoder UInt16 := (bounded "u16" 0 65535).map fun value => UInt16.ofNat value.toNat

/-- A whole number below `2 ^ 32`. -/
def uint32 : Decoder UInt32 :=
  (bounded "u32" 0 4294967295).map fun value => UInt32.ofNat value.toNat

/-- A whole number below `2 ^ 64`. -/
def uint64 : Decoder UInt64 :=
  (bounded "u64" 0 18446744073709551615).map fun value => UInt64.ofNat value.toNat

/-- A count that a machine word of 64 bits can hold. -/
def count : Decoder UInt64 :=
  (bounded "usize" 0 18446744073709551615).map fun value => UInt64.ofNat value.toNat

/-- A whole number of 64 bits with a sign. -/
def int64 : Decoder Int := bounded "i64" (-9223372036854775808) 9223372036854775807

/-- A string. -/
def string : Decoder String where
  fromText := do
    match ← peekValue with
    | 0x22 => Reader.quotedString
    | _ => wrongType "a string"
  fromValue
    | .string value => .ok value
    | other => .error (.invalidType (found other) "a string")

/-- Nothing, written as null. -/
def unit : Decoder Unit where
  fromText := do
    match ← peekValue with
    | 0x6E =>
      skip
      word [0x75, 0x6C, 0x6C]
    | _ => wrongType "unit"
  fromValue
    | .null => .ok ()
    | other => .error (.invalidType (found other) "unit")

/-- A value that may be null instead. -/
def option (decoder : Decoder α) : Decoder (Option α) where
  fromText := do
    match ← peekBlank with
    | some 0x6E =>
      skip
      word [0x75, 0x6C, 0x6C]
      pure none
    | _ =>
      let value ← decoder.fromText
      pure (some value)
  fromValue
    | .null => .ok none
    | other => (decoder.fromValue other).map some

/-- The items of a list. -/
def list (decoder : Decoder α) : Decoder (List α) where
  fromText := do
    match ← peekValue with
    | 0x5B => placed (closedBy (nested (do skip; Reader.items decoder.fromText)) Reader.endList)
    | _ => wrongType "a sequence"
  fromValue
    | .array items => items.mapM decoder.fromValue
    | other => .error (.invalidType (found other) "a sequence")

/-- The value that a name stands for. -/
def variantOf (known : List (String × α)) (name : String) : Except Cause α :=
  match lookupField? name known with
  | some value => .ok value
  | none => .error (.unknownVariant name (known.map Prod.fst))

/-- One of some named values: a string, or an object whose only key is the name and whose only
value is null. -/
def variant (known : List (String × α)) : Decoder α where
  fromText := do
    match ← peekBlank with
    | some 0x7B =>
      let value ← nested do
        skip
        if ← Reader.hasKey true then
          let value ← named
          Reader.colon
          unit.fromText
          pure value
        else failNext .expectedValue
      match ← peekBlank with
      | some 0x7D =>
        skip
        pure value
      | some _ => Reader.fail .expectedValue
      | none => Reader.fail .endOfObject
    | some 0x22 => named
    | some _ => failNext .expectedValue
    | none => failNext .endOfValue
  fromValue
    | .string name => variantOf known name
    | .object [(name, json)] => do
      let value ← variantOf known name
      unit.fromValue json
      pure value
    | .object _ => .error (.invalidValue .map "map with a single key")
    | other => .error (.invalidType (found other) "string or map")
where
  named : Reader α := placed do
    let name ← Reader.quotedString
    Reader.ofExcept (variantOf known name)

/-- A decoder's answer for a whole text. -/
def decodeText (decoder : Decoder α) (octets : Octets) : Except Error α :=
  decoder.fromText.run octets

/-- A decoder's answer for a value that was read before. -/
def decodeValue (decoder : Decoder α) (json : Json) : Except Error α :=
  match decoder.fromValue json with
  | .ok value => .ok value
  | .error cause => .error ⟨cause, none⟩

end Decoder

/-- A field of a record: its name, how it is read into the state of the fields before it, and
whether it may be left out of an object. -/
structure Field (σ : Type) where
  name : String
  fromText : σ → Reader σ
  fromValue : σ → Json → Except Cause σ
  optional : Bool

/-- A field that is read by a decoder and stored by `store`. -/
def Field.of (name : String) (optional : Bool) (decoder : Decoder α) (store : σ → α → σ) :
    Field σ where
  name
  fromText state := do
    let value ← decoder.fromText
    pure (store state value)
  fromValue state json := (decoder.fromValue json).map (store state)
  optional

/-- A structure with named fields. In a list the fields stand in their declared order, and the
last ones may be missing if the record `allowsShort`. -/
structure Record (σ : Type) where
  name : String
  fields : List (Field σ)
  initial : σ
  allowsShort : Bool

namespace Record

open Reader (peekValue wrongType refuse placed skip closedBy nested)

/-- What the record is called in refusals. -/
def title (record : Record σ) : String := "struct " ++ record.name

/-- The refusal of a list that ends before its last field. -/
def tooShort (record : Record σ) (length : Nat) : Cause :=
  .invalidLength length
    (record.title ++ " with " ++ toString record.fields.length ++ " elements")

/-- The field of a name. -/
def field? (record : Record σ) (name : String) : Option (Field σ) :=
  record.fields.find? (·.name = name)

/-- The first field that was not given and may not be left out. -/
def missing? (record : Record σ) (given : List String) : Option String :=
  (record.fields.find? fun field => !field.optional && !given.contains field.name).map (·.name)

/-- The state after all entries of an object, unless a field is missing. -/
def complete (record : Record σ) (state : σ × List String) : Except Cause σ :=
  match record.missing? state.2 with
  | some name => .error (.missingField name)
  | none => .ok state.1

/-- The fields of a list, in declared order. -/
def readItems (record : Record σ) : List (Field σ) → Nat → σ → Reader σ
  | [], _, state => Reader.pure state
  | field :: rest, index, state => do
    if ← Reader.hasItem (index == 0) then
      let next ← field.fromText state
      record.readItems rest (index + 1) next
    else if record.allowsShort then pure state
    else refuse (record.tooShort index)

/-- One entry of an object: a known field once, an unknown one passed over. -/
def readEntry (record : Record σ) (state : σ × List String) : Reader (σ × List String) := do
  let name ← Reader.quotedString
  match record.field? name with
  | some field =>
    if state.2.contains name then refuse (.duplicateField name)
    else
      Reader.colon
      let next ← field.fromText state.1
      pure (next, name :: state.2)
  | none =>
    Reader.colon
    Reader.ignored
    pure state

/-- The fields of an array, in declared order, and the items left over. -/
def ofItems (record : Record σ) : List (Field σ) → Nat → List Json → σ → Except Cause (σ × List Json)
  | [], _, items, state => .ok (state, items)
  | _ :: _, index, [], state =>
    if record.allowsShort then .ok (state, []) else .error (record.tooShort index)
  | field :: rest, index, item :: items, state => do
    let next ← field.fromValue state item
    record.ofItems rest (index + 1) items next

/-- The entries of an object, in order of names. -/
def ofFields (record : Record σ) :
    List (String × Json) → σ × List String → Except Cause (σ × List String)
  | [], state => .ok state
  | (name, json) :: rest, state =>
    match record.field? name with
    | some field => do
      let next ← field.fromValue state.1 json
      record.ofFields rest (next, name :: state.2)
    | none => record.ofFields rest state

/-- The decoder of a record. -/
def decoder (record : Record σ) : Decoder σ where
  fromText := do
    match ← peekValue with
    | 0x5B =>
      placed (closedBy
        (nested (do skip; record.readItems record.fields 0 record.initial)) Reader.endList)
    | 0x7B =>
      placed (closedBy
        (nested (do
          skip
          let state ← Reader.entries record.readEntry (record.initial, [])
          Reader.ofExcept (record.complete state)))
        Reader.endObject)
    | _ => wrongType record.title
  fromValue
    | .array items => do
      let (state, rest) ← record.ofItems record.fields 0 items record.initial
      if rest = [] then pure state
      else throw (.invalidLength items.length "fewer elements in array")
    | .object fields => do
      let state ← record.ofFields fields (record.initial, [])
      record.complete state
    | other => .error (.invalidType (found other) record.title)

end Record
end ResilientHttp.Json
