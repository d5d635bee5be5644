import ResilientHttp.Json.Error
import ResilientHttp.Text.Utf8

/-!
Reading JSON text. A `Cursor` is the unread octets with the place reached; a `Reader` takes a
cursor and gives a value or an error, and always the cursor it has come to, because an error that
has no place of its own gets the place where reading stopped. The loops over list items and object
entries go on only while octets are consumed, which is why they end; a cursor knows how many are
left without counting them.
-/

namespace ResilientHttp.Json

/-- The unread octets and their number, the place of the first of them, and how many more levels of
nesting may be entered. -/
structure Cursor where
  rest : Octets
  left : Nat
  left_eq : left = rest.length
  line : Nat
  column : Nat
  depth : Nat
  deriving DecidableEq, Repr

namespace Cursor

/-- The most levels that values may be nested, plus one. -/
def depthLimit : Nat := 128

/-- The start of a text. -/
def start (octets : Octets) : Cursor := ⟨octets, octets.length, rfl, 1, 0, depthLimit⟩

/-- The place reached. -/
def position (cursor : Cursor) : Position := ⟨cursor.line, cursor.column⟩

/-- The cursor behind a number of octets that hold no line end. -/
def skip (cursor : Cursor) (count : Nat) : Cursor :=
  { cursor with
    rest := cursor.rest.drop count
    left := cursor.left - count
    left_eq := by rw [cursor.left_eq, List.length_drop]
    column := cursor.column + count }

/-- The cursor behind the next octet, if there is one. -/
def advance (cursor : Cursor) : Cursor :=
  match cursor.rest with
  | [] => cursor
  | 0x0A :: _ => { cursor.skip 1 with line := cursor.line + 1, column := 0 }
  | _ :: _ => cursor.skip 1

/-- The next octet is no longer left once the cursor is behind it. -/
theorem left_advance {cursor : Cursor} {octet : UInt8} {later : Octets}
    (next : cursor.rest = octet :: later) : cursor.advance.left < cursor.left := by
  have counted := cursor.left_eq
  rw [next, List.length_cons] at counted
  unfold advance
  split <;> simp_all [skip]

/-- The place behind the next octet. -/
def nextPosition (cursor : Cursor) : Position := cursor.advance.position

/-- Blanks are the space, tab, line feed and carriage return. -/
def isBlank (octet : UInt8) : Bool :=
  octet = 0x20 || octet = 0x09 || octet = 0x0A || octet = 0x0D

/-- The cursor at the first octet that is not a blank. -/
def skipBlanks (cursor : Cursor) : Cursor :=
  (cursor.rest.takeWhile isBlank).foldl (fun cursor _ => cursor.advance) cursor

end Cursor

/-- The outcome of reading: a value or an error, and the cursor reached. -/
abbrev Outcome (α : Type) := Except Error α × Cursor

/-- A step of reading. -/
def Reader (α : Type) := Cursor → Outcome α

namespace Reader

/-- Gives a value and reads nothing. -/
def pure (value : α) : Reader α := fun cursor => (.ok value, cursor)

/-- Reads one thing, then another that may depend on it. -/
def bind (first : Reader α) (next : α → Reader β) : Reader β := fun cursor =>
  match first cursor with
  | (.ok value, after) => next value after
  | (.error error, after) => (.error error, after)

instance : Monad Reader where
  pure := Reader.pure
  bind := Reader.bind

/-- Refuses at the place reached. -/
def fail (cause : Cause) : Reader α := fun cursor =>
  (.error ⟨cause, some cursor.position⟩, cursor)

/-- Refuses at the place behind the next octet. -/
def failNext (cause : Cause) : Reader α := fun cursor =>
  (.error ⟨cause, some cursor.nextPosition⟩, cursor)

/-- Refuses without naming a place. -/
def refuse (cause : Cause) : Reader α := fun cursor => (.error ⟨cause, none⟩, cursor)

/-- Gives an error without a place the place where reading stopped. -/
def placed (reader : Reader α) : Reader α := fun cursor =>
  match reader cursor with
  | (.error ⟨cause, none⟩, after) => (.error ⟨cause, some after.position⟩, after)
  | outcome => outcome

/-- A result without a place, as a step that reads nothing. -/
def ofExcept (result : Except Cause α) : Reader α :=
  match result with
  | .ok value => pure value
  | .error cause => refuse cause

/-- The next octet, which stays unread. -/
def peek : Reader (Option UInt8) := fun cursor => (.ok cursor.rest.head?, cursor)

/-- Takes the next octet. -/
def skip : Reader Unit := fun cursor => (.ok (), cursor.advance)

/-- The next octet behind blanks, which stays unread. -/
def peekBlank : Reader (Option UInt8) := fun cursor =>
  let cursor := cursor.skipBlanks
  (.ok cursor.rest.head?, cursor)

/-- Takes the octets of a word whose first octet was taken. -/
def word : Octets → Reader Unit
  | [] => pure ()
  | expected :: rest => fun cursor =>
    match cursor.rest with
    | [] => fail .endOfValue cursor
    | octet :: _ =>
      if octet = expected then word rest cursor.advance else fail .expectedWord cursor.advance

/-- Enters one level of nesting, reads, and leaves it. -/
def nested (reader : Reader α) : Reader α := fun cursor =>
  if cursor.depth ≤ 1 then failNext .tooDeep cursor
  else
    let (result, after) := reader { cursor with depth := cursor.depth - 1 }
    (result, { after with depth := cursor.depth })

/-- What is read between brackets, then the closing. The closing is looked for even if the inside
was refused, which moves the place of a refusal that has none. -/
def closedBy (inside : Reader α) (closing : Reader Unit) : Reader α := fun cursor =>
  match inside cursor with
  | (.error error, after) => (.error error, (closing after).2)
  | (.ok value, after) =>
    match closing after with
    | (.ok (), behind) => (.ok value, behind)
    | (.error error, behind) => (.error error, behind)

/-- Whether a list goes on with another item. -/
def hasItem (first : Bool) : Reader Bool := do
  match ← peekBlank with
  | none => failNext .endOfList
  | some octet =>
    if octet = 0x5D then pure false
    else if octet = 0x2C ∧ !first then
      skip
      match ← peekBlank with
      | none => failNext .endOfValue
      | some 0x5D => failNext .trailingComma
      | some _ => pure true
    else if first then pure true
    else failNext .expectedCommaOrBracket

/-- The end of a list. -/
def endList : Reader Unit := do
  match ← peekBlank with
  | some 0x5D => skip
  | some 0x2C =>
    skip
    match ← peekBlank with
    | some 0x5D => failNext .trailingComma
    | _ => failNext .trailingCharacters
  | some _ => failNext .trailingCharacters
  | none => failNext .endOfList

/-- Whether an object goes on with another entry, whose key then comes next. -/
def hasKey (first : Bool) : Reader Bool := do
  match ← peekBlank with
  | none => failNext .endOfObject
  | some octet =>
    if octet = 0x7D then pure false
    else if octet = 0x2C ∧ !first then
      skip
      match ← peekBlank with
      | none => failNext .endOfValue
      | some 0x22 => pure true
      | some 0x7D => failNext .trailingComma
      | some _ => failNext .keyNotString
    else if !first then failNext .expectedCommaOrBrace
    else if octet = 0x22 then pure true
    else failNext .keyNotString

/-- The colon behind a key. -/
def colon : Reader Unit := do
  match ← peekBlank with
  | some 0x3A => skip
  | some _ => failNext .expectedColon
  | none => failNext .endOfObject

/-- The end of an object. -/
def endObject : Reader Unit := do
  match ← peekBlank with
  | some 0x7D => skip
  | some 0x2C => failNext .trailingComma
  | some _ => failNext .trailingCharacters
  | none => failNext .endOfObject

/-- The items of a list, up to its closing bracket. -/
def items (item : Reader α) : Reader (List α) :=
  go true []
where
  go (first : Bool) (read : List α) (cursor : Cursor) : Outcome (List α) :=
    match hasItem first cursor with
    | (.error error, after) => (.error error, after)
    | (.ok false, after) => (.ok read.reverse, after)
    | (.ok true, after) =>
      match item after with
      | (.error error, behind) => (.error error, behind)
      | (.ok value, behind) =>
        if behind.left < cursor.left then go false (value :: read) behind
        else fail .expectedValue behind
  termination_by cursor.left

/-- The entries of an object, up to its closing brace; each is read into what the ones before it
have left. -/
def entries (entry : σ → Reader σ) (initial : σ) : Reader σ :=
  go true initial
where
  go (first : Bool) (state : σ) (cursor : Cursor) : Outcome σ :=
    match hasKey first cursor with
    | (.error error, after) => (.error error, after)
    | (.ok false, after) => (.ok state, after)
    | (.ok true, after) =>
      match entry state after with
      | (.error error, behind) => (.error error, behind)
      | (.ok next, behind) =>
        if behind.left < cursor.left then go false next behind
        else fail .expectedValue behind
  termination_by cursor.left

/-- Reads a whole text: behind the value only blanks may follow. -/
def run (reader : Reader α) (octets : Octets) : Except Error α :=
  (complete (Cursor.start octets)).1
where
  complete : Reader α := do
    let value ← reader
    match ← peekBlank with
    | none => pure value
    | some _ => failNext .trailingCharacters

end Reader
end ResilientHttp.Json
