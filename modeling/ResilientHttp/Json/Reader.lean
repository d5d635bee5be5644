import ResilientHttp.Json.Scalar

/-!
Values of JSON text. `value` reads any value; levels of nesting are bounded, and the bound is the
argument that the recursion goes by. `ignored` passes over a value without keeping it: it checks
less (surrogates, range of numbers) and nests without bound, keeping the open brackets itself.
-/

namespace ResilientHttp.Json.Reader

/-- A key of an object and the colon behind it. -/
def key : Reader String := quotedString

/-- A value of any kind with at most `depth - 1` levels of nesting. -/
def valueWithin : Nat → Reader Json
  | 0 => failNext .tooDeep
  | depth + 1 => do
    match ← peekBlank with
    | none => failNext .endOfValue
    | some 0x6E =>
      skip
      word [0x75, 0x6C, 0x6C]
      pure .null
    | some 0x74 =>
      skip
      word [0x72, 0x75, 0x65]
      pure (.bool true)
    | some 0x66 =>
      skip
      word [0x61, 0x6C, 0x73, 0x65]
      pure (.bool false)
    | some 0x22 =>
      let text ← quotedString
      pure (.string text)
    | some 0x5B =>
      if depth = 0 then failNext .tooDeep
      else
        skip
        let read ← closedBy (items (valueWithin depth)) endList
        pure (.array read)
    | some 0x7B =>
      if depth = 0 then failNext .tooDeep
      else
        skip
        let entry (fields : List (String × Json)) : Reader (List (String × Json)) := do
          let name ← key
          colon
          let item ← valueWithin depth
          pure (insertField name item fields)
        let fields ← closedBy (entries entry []) endObject
        pure (.object fields)
    | some octet =>
      if octet = 0x2D ∨ isDigit octet then
        let read ← number
        pure (.number read)
      else failNext .expectedValue

/-- A value of any kind, nested no deeper than the text so far leaves room for. -/
def value : Reader Json := fun cursor => valueWithin cursor.depth cursor

/-- Passes over a string up to its closing mark; escapes have to be spelt right but need not stand
for characters. -/
def ignoredString : Reader Unit :=
  go
where
  go (cursor : Cursor) : Outcome Unit :=
    match _ : cursor.rest with
    | [] => fail .endOfString cursor
    | octet :: _ =>
      if octet = 0x22 then (.ok (), cursor.advance)
      else if octet = 0x5C then
        match ignoredEscape cursor.advance with
        | (.error error, behind) => (.error error, behind)
        | (.ok (), behind) =>
          if behind.left < cursor.left then go behind
          else fail .invalidEscape behind
      else if octet < 0x20 then fail .controlCharacter cursor
      else go cursor.advance
  termination_by cursor.left
  decreasing_by
    · assumption
    · exact Cursor.left_advance ‹_›
  ignoredEscape : Reader Unit := do
    let octet ← peekInString
    skip
    if octet = 0x75 then
      let _ ← hexEscape
      pure ()
    else if octet ∈ ([0x22, 0x5C, 0x2F, 0x62, 0x66, 0x6E, 0x72, 0x74] : Octets) then pure ()
    else fail .invalidEscape

/-- Passes over an exponent; its mark comes next. -/
def ignoredExponent : Reader Unit := do
  skip
  let sign ← peek
  if sign = some 0x2B ∨ sign = some 0x2D then skip
  match ← peek with
  | none => fail .invalidNumber
  | some octet =>
    if isDigit octet then
      let _ ← digits
      pure ()
    else do
      skip
      fail .invalidNumber

/-- Passes over a number behind its sign. -/
def ignoredNumber : Reader Unit := do
  match ← peek with
  | none => fail .invalidNumber
  | some octet =>
    if !isDigit octet then do
      skip
      fail .invalidNumber
    else
      if octet = 0x30 then
        skip
        match ← peek with
        | some next => if isDigit next then failNext .invalidNumber
        | none => pure ()
      else
        let _ ← digits
        pure ()
      match ← peek with
      | some 0x2E =>
        skip
        match ← digits with
        | [] => failNext .invalidNumber
        | _ =>
          match ← peek with
          | some 0x65 => ignoredExponent
          | some 0x45 => ignoredExponent
          | _ => pure ()
      | some 0x65 => ignoredExponent
      | some 0x45 => ignoredExponent
      | _ => pure ()

/-- A bracket that is open while a value is passed over. -/
inductive Frame where
  | list
  | object
  deriving DecidableEq, Repr

/-- The octet that closes a bracket. -/
def Frame.closing : Frame → UInt8
  | .list => 0x5D
  | .object => 0x7D

/-- The refusal when something else than a comma or the closing follows in a bracket. -/
def Frame.expected : Frame → Cause
  | .list => .expectedCommaOrBracket
  | .object => .expectedCommaOrBrace

/-- The refusal when the text ends inside a bracket. -/
def Frame.ended : Frame → Cause
  | .list => .endOfList
  | .object => .endOfObject

/-- Passes over a scalar, or opens a bracket and tells which. -/
def ignoredStart : Reader (Option Frame) := do
  match ← peekBlank with
  | none => failNext .endOfValue
  | some 0x6E =>
    skip
    word [0x75, 0x6C, 0x6C]
    pure none
  | some 0x74 =>
    skip
    word [0x72, 0x75, 0x65]
    pure none
  | some 0x66 =>
    skip
    word [0x61, 0x6C, 0x73, 0x65]
    pure none
  | some 0x22 =>
    skip
    ignoredString
    pure none
  | some 0x5B =>
    skip
    pure (some .list)
  | some 0x7B =>
    skip
    pure (some .object)
  | some octet =>
    if octet = 0x2D then
      skip
      ignoredNumber
      pure none
    else if isDigit octet then
      ignoredNumber
      pure none
    else failNext .expectedValue

/-- Closes as many open brackets as end here. A bracket that was just opened takes no comma. The
outcome is the brackets still open before the next item, innermost first; none are left when the
value has ended. -/
def ignoredClosings (comma : Bool) : List Frame → Reader (List Frame)
  | [] => pure []
  | frame :: outer => do
    match ← peekBlank with
    | none => failNext frame.ended
    | some octet =>
      if octet = 0x2C ∧ comma then
        skip
        pure (frame :: outer)
      else if octet = frame.closing then
        skip
        ignoredClosings true outer
      else if comma then failNext frame.expected
      else pure (frame :: outer)

/-- The key before the next item, if the innermost open bracket is an object. -/
def ignoredKey : List Frame → Reader Unit
  | .object :: _ => do
    match ← peekBlank with
    | some 0x22 => skip
    | some _ => failNext .keyNotString
    | none => failNext .endOfObject
    ignoredString
    match ← peekBlank with
    | some 0x3A => skip
    | some _ => failNext .expectedColon
    | none => failNext .endOfObject
  | _ => pure ()

/-- One item inside the open brackets and what ends behind it. -/
def ignoredItem (frames : List Frame) : Reader (List Frame) := do
  let left ← match ← ignoredStart with
    | some frame => ignoredClosings false (frame :: frames)
    | none => ignoredClosings true frames
  ignoredKey left
  pure left

/-- Passes over a value of any kind. -/
def ignored : Reader Unit :=
  go []
where
  go (frames : List Frame) (cursor : Cursor) : Outcome Unit :=
    match ignoredItem frames cursor with
    | (.error error, behind) => (.error error, behind)
    | (.ok [], behind) => (.ok (), behind)
    | (.ok left, behind) =>
      if behind.left < cursor.left then go left behind
      else fail .expectedValue behind
  termination_by cursor.left

end ResilientHttp.Json.Reader
