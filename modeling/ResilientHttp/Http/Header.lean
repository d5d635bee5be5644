import ResilientHttp.Text.Utf8
import ResilientHttp.Text.Quoted

/-!
Methods and header fields. Method and header names are tokens; header names are kept in lower
case. A `HeaderMap` lists its names in order of first insertion, each with its values in order:
`insert` replaces the values of a name, `append` adds one, and `extend` replaces the values of
every name of the other map.
-/

namespace ResilientHttp

/-- Whether a character may stand in a token. -/
def isTokenChar (char : Char) : Bool :=
  char.isAlphanum || "!#$%&'*+-.^_|~".contains char || char = '\x60'

/-- A request method: a token, kept as it was written. -/
structure Method where
  name : String
  deriving DecidableEq, Repr

namespace Method

/-- The method of a name, if the name is a token. -/
def ofString? (name : String) : Option Method :=
  if name ≠ "" ∧ name.toList.all isTokenChar then some ⟨name⟩ else none

/-- Retrieval. -/
def get : Method := ⟨"GET"⟩

/-- Submission. -/
def post : Method := ⟨"POST"⟩

/-- Replacement. -/
def put : Method := ⟨"PUT"⟩

/-- Removal. -/
def delete : Method := ⟨"DELETE"⟩

end Method

/-- A header name in lower case. -/
structure HeaderName where
  text : String
  deriving DecidableEq, Repr

/-- The most octets that a header name may have. -/
def HeaderName.maxLength : Nat := 65535

/-- The header name of a token. -/
def HeaderName.ofString? (text : String) : Option HeaderName :=
  let chars := text.toList
  if chars ≠ [] ∧ chars.length ≤ HeaderName.maxLength ∧ chars.all isTokenChar then
    some ⟨String.ofList (chars.map Char.toLower)⟩
  else none

/-- A header value: octets without controls, the tab excepted. -/
structure HeaderValue where
  octets : Octets
  deriving DecidableEq, Repr

namespace HeaderValue

/-- Whether an octet may stand in a value. -/
def allows (octet : UInt8) : Bool := (0x20 ≤ octet && octet ≠ 0x7F) || octet = 0x09

/-- The value of octets that may all stand in one. -/
def ofOctets? (octets : Octets) : Option HeaderValue :=
  if octets.all allows then some ⟨octets⟩ else none

/-- One octet of a value in a description. -/
def describeOctet (octet : UInt8) : String :=
  if octet = 0x22 then "\\\""
  else if (0x20 ≤ octet && octet < 0x7F) || octet = 0x09 then
    String.singleton (Char.ofNat octet.toNat)
  else "\\x" ++ Text.hex octet.toNat

/-- A value between quotation marks. -/
def describe (value : HeaderValue) : String :=
  "\"" ++ String.join (value.octets.map describeOctet) ++ "\""

end HeaderValue

/-- Header fields: names in order of first insertion, each once and with its values. -/
structure HeaderMap where
  entries : List (HeaderName × List HeaderValue)
  distinct : (entries.map Prod.fst).Nodup
  deriving DecidableEq, Repr

namespace HeaderMap

/-- No header fields. -/
def empty : HeaderMap := ⟨[], List.nodup_nil⟩

/-- Entries with the values of one name replaced. -/
def setEntry (name : HeaderName) (values : List HeaderValue) :
    List (HeaderName × List HeaderValue) → List (HeaderName × List HeaderValue)
  | [] => [(name, values)]
  | (other, old) :: rest =>
    if name = other then (name, values) :: rest
    else (other, old) :: setEntry name values rest

/-- Setting an entry keeps the names, and adds its own behind them if it is new. -/
theorem names_setEntry (name : HeaderName) (values : List HeaderValue)
    (entries : List (HeaderName × List HeaderValue)) :
    (setEntry name values entries).map Prod.fst =
      if name ∈ entries.map Prod.fst then entries.map Prod.fst
      else entries.map Prod.fst ++ [name] := by
  induction entries with
  | nil => simp [setEntry]
  | cons entry rest ih =>
    obtain ⟨other, old⟩ := entry
    by_cases h : name = other
    · simp [setEntry, h]
    · by_cases hr : name ∈ rest.map Prod.fst <;> simp_all [setEntry]

/-- The map with the values of one name replaced. -/
def put (map : HeaderMap) (name : HeaderName) (values : List HeaderValue) : HeaderMap where
  entries := setEntry name values map.entries
  distinct := by
    rw [names_setEntry]
    split
    · exact map.distinct
    · rename_i h
      rw [List.nodup_append]
      refine ⟨map.distinct, by simp, ?_⟩
      rintro other hm _ hn rfl
      exact h (List.mem_singleton.1 hn ▸ hm)

/-- The values of a name, in order. -/
def getAll (map : HeaderMap) (name : HeaderName) : List HeaderValue :=
  match map.entries.find? (·.1 = name) with
  | some (_, values) => values
  | none => []

/-- The map with a value as the only one of its name. -/
def insert (map : HeaderMap) (name : HeaderName) (value : HeaderValue) : HeaderMap :=
  map.put name [value]

/-- The map with a value behind those that its name has. -/
def append (map : HeaderMap) (name : HeaderName) (value : HeaderValue) : HeaderMap :=
  map.put name (map.getAll name ++ [value])

/-- The map without a name. -/
def remove (map : HeaderMap) (name : HeaderName) : HeaderMap where
  entries := map.entries.filter (·.1 ≠ name)
  distinct := map.distinct.sublist (List.filter_sublist.map Prod.fst)

/-- The map with the values of every name of another map replaced by those of that map. -/
def extend (map other : HeaderMap) : HeaderMap :=
  other.entries.foldl (fun merged entry => merged.put entry.1 entry.2) map

/-- Setting an entry is seen under its own name and under no other. -/
theorem find?_setEntry (name other : HeaderName) (values : List HeaderValue)
    (entries : List (HeaderName × List HeaderValue)) :
    (setEntry name values entries).find? (·.1 = other) =
      if other = name then some (name, values) else entries.find? (·.1 = other) := by
  induction entries with
  | nil => by_cases h : other = name <;> simp [setEntry, h, eq_comm]
  | cons entry rest ih =>
    obtain ⟨first, old⟩ := entry
    by_cases hn : name = first
    · subst hn
      by_cases h : other = name
      · simp [setEntry, h]
      · simp [setEntry, h, Ne.symm h]
    · by_cases hf : first = other
      · subst hf
        simp [setEntry, hn, Ne.symm hn]
      · simp [setEntry, hn, hf, ih]

/-- After its values were replaced a name has the new ones, and every other name has the values
that it had. -/
theorem getAll_put (map : HeaderMap) (name other : HeaderName) (values : List HeaderValue) :
    (map.put name values).getAll other = if other = name then values else map.getAll other := by
  simp only [getAll, put, find?_setEntry]
  by_cases h : other = name <;> simp [h]

/-- The fields of entries in order, a name repeated for each of its values. -/
def fieldsOf (entries : List (HeaderName × List HeaderValue)) :
    List (HeaderName × HeaderValue) :=
  entries.flatMap fun entry => entry.2.map fun value => (entry.1, value)

/-- The fields in order, a name repeated for each of its values. -/
def toList (map : HeaderMap) : List (HeaderName × HeaderValue) := fieldsOf map.entries

/-- The number of fields. -/
def size (map : HeaderMap) : Nat := map.toList.length

/-- The fields of a list, each appended. -/
def ofList (fields : List (HeaderName × HeaderValue)) : HeaderMap :=
  fields.foldl (fun map field => map.append field.1 field.2) empty

/-- The fields in ascending order of names. -/
def sorted (map : HeaderMap) : List (HeaderName × HeaderValue) :=
  fieldsOf (map.entries.mergeSort fun left right => left.1.text ≤ right.1.text)

/-- The fields between braces. -/
def describe (map : HeaderMap) : String :=
  Text.enclosed "\x7b" "\x7d" (map.toList.map fun field =>
    Text.quoted field.1.text ++ ": " ++ field.2.describe)

end HeaderMap
end ResilientHttp
