import ResilientHttp.Http.Payload
import ResilientHttp.Http.Response
import ResilientHttp.Proofs.Json.Scalar

/-!
JSON that was sent is read back. `Json.Plain` says which values: whole numbers of 64 bits and nothing else
for numbers, objects with no name twice, and a bound on how deep they are nested.

* `Plain.reads` — by induction on the value, one case for each kind: what is printed is read as the value
  with its fields in order.
* `Ordered.sorted_eq` — a value whose fields are in order is not changed by that.
* `json_encode` — the way round over a payload, its body, and the reply that has these octets.
-/

namespace ResilientHttp

namespace Json

/-! ### Values that text keeps -/

/-- Whole numbers of 64 bits with or without a sign are the only numbers, no object has a name twice, and
lists and objects are nested at most `depth` deep. -/
inductive Plain : Nat → Json → Prop
  | null {depth} : Plain depth .null
  | bool {depth value} : Plain depth (.bool value)
  | whole {depth value} (low : -9223372036854775808 ≤ value)
      (high : value ≤ 18446744073709551615) :
      Plain depth (.number (.whole value))
  | string {depth text} : Plain depth (.string text)
  | array {depth items} (plain : ∀ item ∈ items, Plain depth item) : Plain (depth + 1) (.array items)
  | object {depth} {fields : List (String × Json)} (distinct : (fields.map Prod.fst).Nodup)
      (plain : ∀ field ∈ fields, Plain depth field.2) : Plain (depth + 1) (.object fields)

/-- In every object the names ascend. -/
inductive Ordered : Json → Prop
  | null : Ordered .null
  | bool {value} : Ordered (.bool value)
  | number {value} : Ordered (.number value)
  | string {text} : Ordered (.string text)
  | array {items} (ordered : ∀ item ∈ items, Ordered item) : Ordered (.array items)
  | object {fields : List (String × Json)} (ascending : fields.Pairwise (·.1 < ·.1))
      (ordered : ∀ field ∈ fields, Ordered field.2) : Ordered (.object fields)

mutual

/-- The value with the fields of its objects in ascending order of names. -/
def sorted : Json → Json
  | .array items => .array (sortedItems items)
  | .object fields => .object (sortedFields [] fields)
  | scalar => scalar

/-- The items of a list, each with its fields in order. -/
def sortedItems : List Json → List Json
  | [] => []
  | item :: later => item.sorted :: sortedItems later

/-- Fields put where they belong among those that are in order already. -/
def sortedFields (before : List (String × Json)) : List (String × Json) → List (String × Json)
  | [] => before
  | (name, value) :: later => sortedFields (insertField name value.sorted before) later

end

/-- A field put where it belongs. -/
def addField (before : List (String × Json)) (field : String × Json) : List (String × Json) :=
  insertField field.1 field.2.sorted before

theorem sortedItems_eq (items : List Json) : sortedItems items = items.map sorted := by
  induction items with
  | nil => rfl
  | cons item later ih => rw [sortedItems, ih, List.map_cons]

theorem sortedFields_eq (before fields : List (String × Json)) :
    sortedFields before fields = fields.foldl addField before := by
  induction fields generalizing before with
  | nil => rfl
  | cons field later ih => rw [sortedFields, ih, List.foldl_cons, addField]

section Fields

variable {α : Type} {name : String} {value : α} {fields : List (String × α)}

theorem insertField_of_above (above : ∀ field ∈ fields, field.1 < name) :
    insertField name value fields = fields ++ [(name, value)] := by
  induction fields with
  | nil => rfl
  | cons field later ih =>
      obtain ⟨other, old⟩ := field
      obtain ⟨below, above⟩ := List.forall_mem_cons.mp above
      have notBelow : ¬ name < other := String.lt_asymm below
      have ne : name ≠ other := by
        rintro rfl
        exact String.lt_irrefl _ below
      rw [insertField, if_neg ne, if_neg notBelow, ih above]
      rfl

end Fields

/-- Fields in order stay where they are. -/
theorem foldl_addField_of_ascending {fields : List (String × Json)} (before : List (String × Json))
    (ascending : (before ++ fields).Pairwise (·.1 < ·.1))
    (same : ∀ field ∈ fields, field.2.sorted = field.2) :
    fields.foldl addField before = before ++ fields := by
  induction fields generalizing before with
  | nil => rw [List.foldl_nil, List.append_nil]
  | cons field later ih =>
      obtain ⟨sameFirst, same⟩ := List.forall_mem_cons.mp same
      have above : ∀ other ∈ before, other.1 < field.1 := fun other mem =>
        (List.pairwise_append.mp ascending).2.2 other mem field List.mem_cons_self
      have moved : before ++ field :: later = before ++ [field] ++ later := by
        rw [List.append_assoc, List.singleton_append]
      rw [List.foldl_cons, addField, sameFirst, insertField_of_above above, moved]
      exact ih (before ++ [field]) (moved ▸ ascending) same

/-- A value whose fields are in order has nothing to be sorted. -/
theorem Ordered.sorted_eq {value : Json} (ordered : value.Ordered) : value.sorted = value := by
  induction ordered with
  | null | bool | number | string => rfl
  | array ordered ih => rw [sorted, sortedItems_eq, List.map_congr_left ih, List.map_id']
  | object ascending ordered ih =>
      rw [sorted, sortedFields_eq, foldl_addField_of_ascending [] ascending ih]
      rfl

/-! ### What is printed -/

/-- The octets of a value in compact form. -/
def written (value : Json) : Octets := octetsOfChars (print value)

/-- The octets of a field: its name, a colon and its value. -/
def writtenField (field : String × Json) : Octets :=
  octetsOfChars (printString field.1) ++ 0x3A :: written field.2

theorem octetsOfChars_printItems (items : List Json) :
    octetsOfChars (printItems items) = Reader.separated written items ++ [0x5D] := by
  induction items with
  | nil => rfl
  | cons item later ih =>
      cases later with
      | nil =>
          rw [printItems, octetsOfChars_append, Reader.separated, List.flatMap_nil, List.append_nil]
          rfl
      | cons next later =>
          rw [printItems, octetsOfChars_append, octetsOfChars_cons, ih, Reader.separated_cons_cons,
            List.append_assoc]
          rfl

theorem octetsOfChars_printFields (fields : List (String × Json)) :
    octetsOfChars (printFields fields) = Reader.separated writtenField fields ++ [0x7D] := by
  induction fields with
  | nil => rfl
  | cons field later ih =>
      obtain ⟨name, value⟩ := field
      cases later with
      | nil =>
          rw [printFields, octetsOfChars_append, octetsOfChars_cons, octetsOfChars_append,
            Reader.separated, List.flatMap_nil, List.append_nil, writtenField, List.append_assoc]
          rfl
      | cons next later =>
          rw [printFields, octetsOfChars_append, octetsOfChars_cons, octetsOfChars_append,
            octetsOfChars_cons, ih, Reader.separated_cons_cons, writtenField, List.append_assoc,
            List.append_assoc]
          rfl

theorem written_array (items : List Json) :
    written (.array items) = 0x5B :: (Reader.separated written items ++ [0x5D]) := by
  rw [written, print, octetsOfChars_cons, octetsOfChars_printItems]
  rfl

theorem written_object (fields : List (String × Json)) :
    written (.object fields) = 0x7B :: (Reader.separated writtenField fields ++ [0x7D]) := by
  rw [written, print, octetsOfChars_cons, octetsOfChars_printFields]
  rfl

namespace Reader

theorem begins_printString (text : String) : Begins 0x22 (octetsOfChars (printString text)) := by
  rw [printString, octetsOfChars_cons]
  rfl

theorem begins_writtenField (field : String × Json) : Begins 0x22 (writtenField field) :=
  (begins_printString field.1).append _

/-- A value begins an item: neither with a blank nor with the bracket that closes a list. -/
theorem beginsItem_written {depth : Nat} {value : Json} (plain : Plain depth value) :
    BeginsItem (written value) := by
  cases plain with
  | null => exact ⟨0x6E, rfl, by decide⟩
  | @bool _ value =>
      cases value with
      | true => exact ⟨0x74, rfl, by decide⟩
      | false => exact ⟨0x66, rfl, by decide⟩
  | @whole _ value low high =>
      obtain ⟨octet, later, written, first⟩ := exists_cons_number value
      exact ⟨octet, by rw [Json.written, print, written]; rfl, notBlank_of_number first⟩
  | @string _ text => exact ⟨0x22, begins_printString text, by decide⟩
  | array => exact ⟨0x5B, by rw [written_array]; rfl, by decide⟩
  | object => exact ⟨0x7B, by rw [written_object]; rfl, by decide⟩

theorem reads_entry {limit : Nat} {field : String × Json}
    (reads : Reads Ends (valueWithin limit) (written field.2) field.2.sorted)
    (before : List (String × Json)) :
    Reads Ends (do
      let name ← key
      colon
      let item ← valueWithin limit
      pure (insertField name item before)) (writtenField field) (addField before field) := by
  refine (reads_quotedString field.1).bind ?_ fun _ _ => trivial
  refine Reads.colon ?_
  exact reads.map (f := fun item => insertField field.1 item before)

end Reader

/-- What is printed is read as the value with its fields in order, if there is room for its nesting. -/
theorem Plain.reads {depth : Nat} {value : Json} (plain : Plain depth value) (limit : Nat)
    (room : depth < limit) :
    Reader.Reads Reader.Ends (Reader.valueWithin limit) (written value) value.sorted := by
  open Reader in
  induction plain generalizing limit with
  | null =>
      obtain ⟨limit, rfl⟩ := Nat.exists_eq_add_of_lt room
      exact Reads.peekBlank rfl (Reads.skip (reads_word _).map)
  | @bool depth value =>
      obtain ⟨limit, rfl⟩ := Nat.exists_eq_add_of_lt room
      cases value with
      | true => exact Reads.peekBlank rfl (Reads.skip (reads_word _).map)
      | false => exact Reads.peekBlank rfl (Reads.skip (reads_word _).map)
  | @whole depth value low high =>
      obtain ⟨limit, rfl⟩ := Nat.exists_eq_add_of_lt room
      have read := reads_number low high
      obtain ⟨octet, later, given, first⟩ := exists_cons_number value
      rw [written, print]
      rw [given] at read ⊢
      refine Reads.peekBlank (notBlank_of_number first).1 ?_
      -- What begins a number begins nothing else.
      split
      case h_1 next => cases next
      case h_8 next =>
        cases next
        rw [if_pos first]
        exact read.map
      all_goals
        rename_i next
        cases next
        exact absurd first (by decide)
  | @string depth text =>
      obtain ⟨limit, rfl⟩ := Nat.exists_eq_add_of_lt room
      obtain ⟨later, given⟩ := List.head?_eq_some_iff.mp (begins_printString text)
      have read : Reads Ends quotedString _ text := (reads_quotedString text).mono fun _ _ => trivial
      rw [written, print]
      rw [given] at read ⊢
      exact Reads.peekBlank rfl read.map
  | @array depth items plain ih =>
      obtain ⟨limit, rfl⟩ := Nat.exists_eq_add_of_lt room
      rw [written_array, sorted, sortedItems_eq]
      have inside := reads_items (fun item mem => beginsItem_written (plain item mem))
        (fun item mem => ih item mem (depth + 1 + limit) (by omega))
      have closed : Reads Ends _ _ _ := inside.closedBy reads_endList fun _ _ => rfl
      refine Reads.peekBlank rfl ?_
      change Reads Ends (if depth + 1 + limit = 0 then failNext .tooDeep else _) _ _
      rw [if_neg (by omega)]
      exact Reads.skip closed.map
  | @object depth fields distinct plain ih =>
      obtain ⟨limit, rfl⟩ := Nat.exists_eq_add_of_lt room
      rw [written_object, sorted, sortedFields_eq]
      have inside := reads_entries [] (fun field _ => begins_writtenField field)
        (fun field mem => reads_entry (ih field mem (depth + 1 + limit) (by omega)))
      have closed : Reads Ends _ _ _ := inside.closedBy reads_endObject fun _ _ => rfl
      refine Reads.peekBlank rfl ?_
      change Reads Ends (if depth + 1 + limit = 0 then failNext .tooDeep else _) _ _
      rw [if_neg (by omega)]
      exact Reads.skip closed.map

end Json

/-- A value of texts and whole numbers, of lists and objects nested at most 127 deep, makes a body that is
held in memory and can be sent again. A reply with its octets is read as the value with its fields in
order, which is the value itself where they were in order before. -/
theorem Reply.json_encode {value : Json} (plain : Json.Plain 127 value) (status : Status) :
    ∃ octets, (Payload.json (.value value)).encode = .ok (some (.full octets)) ∧
      (Body.full octets).isReplayable = true ∧
      (Body.full octets).tryClone = some (.full octets) ∧
      Reply.json ⟨status, octets⟩ .any = .ok value.sorted ∧
      (value.Ordered → value.sorted = value) := by
  have printed : Utf8.encode (String.ofList value.print) = value.written := by
    rw [Utf8.encode, String.toList_ofList]
    rfl
  -- At the start of a text there is room for 127 levels.
  have start : Json.Reader.run Json.Reader.value value.written =
      Json.Reader.run (Json.Reader.valueWithin Json.Cursor.depthLimit) value.written := rfl
  have read : Json.Reader.run Json.Reader.value value.written = .ok value.sorted :=
    start.trans (Json.Reader.run_of_reads (plain.reads _ (by decide)))
  refine ⟨value.written, ?_, rfl, rfl, ?_, Json.Ordered.sorted_eq⟩
  · rw [← printed]
    rfl
  · rw [Reply.json, Json.Decoder.decodeText]
    exact congrArg (Except.mapError ClientError.decode) read

/-- The numbers at both ends, marks, a control and a character of four octets, in fields that are out of
order. -/
def Json.extremes : Json := .object [
  ("z", .array [.number (.whole (-9223372036854775808)), .number (.whole 18446744073709551615)]),
  ("", .object []),
  ("\x00\"\\", .string "😀")]

theorem Reply.json_encode_extremes :
    Json.Plain 127 Json.extremes ∧ ∃ octets,
      (Payload.json (.value Json.extremes)).encode = .ok (some (.full octets)) ∧
      Reply.json ⟨⟨200⟩, octets⟩ .any = .ok (.object [
        ("", .object []),
        ("\x00\"\\", .string "😀"),
        ("z", .array [.number (.whole (-9223372036854775808)),
          .number (.whole 18446744073709551615)])]) := by
  have numbers : Json.Plain 126 (.array [.number (.whole (-9223372036854775808)),
      .number (.whole 18446744073709551615)]) := by
    refine .array ?_
    simp only [List.forall_mem_cons]
    exact ⟨.whole (by decide) (by decide), .whole (by decide) (by decide), List.forall_mem_nil _⟩
  have plain : Json.Plain 127 Json.extremes := by
    refine .object (by decide) ?_
    simp only [List.forall_mem_cons]
    exact ⟨numbers, .object (by decide) (List.forall_mem_nil _), .string, List.forall_mem_nil _⟩
  obtain ⟨octets, encoded, -, -, read, -⟩ := Reply.json_encode plain ⟨200⟩
  exact ⟨plain, octets, encoded, read⟩

end ResilientHttp
