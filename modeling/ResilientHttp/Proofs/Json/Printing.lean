import ResilientHttp.Proofs.Json.Spelling

/-!
What is printed spells the value that was printed, with its entries as they stand.

* `turns_of_separated` — stretches with commas between them are the turns of a loop; `spans_bracketed` puts
  the brackets around them.
* `Plain.spans` — by induction on the value, one case for each kind; from it `Plain.spells`.
-/

namespace ResilientHttp.Json

namespace Reader

/-- A stretch of octets is one thing, in front of what may follow a value. -/
def Spans (item : Cursor → ε → Cursor → Prop) (stretch : Octets) (one : ε) : Prop :=
  ∀ ⦃cursor : Cursor⦄ ⦃tail : Octets⦄, Ends tail → cursor.rest = stretch ++ tail →
    ∃ behind : Cursor, item cursor one behind ∧ behind.rest = tail

section Loops

variable {ε : Type} {goesOn : Bool → Reader Bool} {item : Cursor → ε → Cursor → Prop} {written : ε → Octets}
  {begins : Octets → Prop} {closing : UInt8} {given : List ε} {cursor : Cursor} {tail : Octets}
  (goes : ∀ first, Reads begins (goesOn first) (if first then [] else [0x2C]) true)
  (stops : ∀ first, Reads (Begins closing) (goesOn first) [] false)
  (starts : ∀ {stretch} tail, begins stretch → stretch ≠ [] ∧ begins (stretch ++ tail))
  (ends : ∀ {tail}, Begins closing tail → Ends tail)

include goes starts in
/-- One turn: an item, behind a comma if it is not the first. -/
theorem turn_of_stretch (first : Bool) {one : ε} (here : begins (written one))
    (spans : Spans item (written one) one) (follows : Ends tail)
    (rest : cursor.rest = (if first then [] else [0x2C]) ++ (written one ++ tail)) :
    ∃ after between : Cursor, (goesOn first).Gives cursor true after ∧ item after one between ∧
      between.left < cursor.left ∧ between.rest = tail := by
  obtain ⟨some, there⟩ := starts tail here
  obtain ⟨after, went, reached⟩ := goes first there rest
  obtain ⟨between, stands, left⟩ := spans follows reached
  refine ⟨after, between, went, stands, ?_, left⟩
  refine Cursor.left_lt_of_rest (rest.trans (List.append_assoc ..).symm) ?_ left
  simp [some]

include goes stops starts ends in
/-- The turns behind the first one. -/
theorem turns_of_flatMap (here : ∀ one ∈ given, begins (written one))
    (spans : ∀ one ∈ given, Spans item (written one) one) (closes : Begins closing tail)
    (rest : cursor.rest = (given.flatMap fun one => 0x2C :: written one) ++ tail) :
    ∃ behind : Cursor, Turns goesOn item false cursor given behind ∧ behind.rest = tail := by
  induction given generalizing cursor with
  | nil =>
      obtain ⟨behind, stopped, reached⟩ := stops false closes rest
      exact ⟨behind, .stop stopped, reached⟩
  | cons one others ih =>
      obtain ⟨begin, here⟩ := List.forall_mem_cons.mp here
      obtain ⟨span, spans⟩ := List.forall_mem_cons.mp spans
      rw [List.flatMap_cons, List.append_assoc] at rest
      have follows : Ends ((others.flatMap fun one => 0x2C :: written one) ++ tail) :=
        ends_flatMap others (ends closes)
      obtain ⟨after, between, went, stands, fewer, reached⟩ :=
        turn_of_stretch goes starts false begin span follows rest
      obtain ⟨behind, turns, left⟩ := ih here spans reached
      exact ⟨behind, .turn went stands fewer turns, left⟩

include goes stops starts ends in
/-- Stretches with commas between them. -/
theorem turns_of_separated (here : ∀ one ∈ given, begins (written one))
    (spans : ∀ one ∈ given, Spans item (written one) one) (closes : Begins closing tail)
    (rest : cursor.rest = separated written given ++ tail) :
    ∃ behind : Cursor, Turns goesOn item true cursor given behind ∧ behind.rest = tail := by
  cases given with
  | nil =>
      obtain ⟨behind, stopped, reached⟩ := stops true closes rest
      exact ⟨behind, .stop stopped, reached⟩
  | cons one others =>
      obtain ⟨begin, here⟩ := List.forall_mem_cons.mp here
      obtain ⟨span, spans⟩ := List.forall_mem_cons.mp spans
      rw [separated, List.append_assoc] at rest
      obtain ⟨after, between, went, stands, fewer, reached⟩ :=
        turn_of_stretch goes starts true begin span (ends_flatMap others (ends closes)) rest
      obtain ⟨behind, turns, left⟩ := turns_of_flatMap goes stops starts ends here spans closes reached
      exact ⟨behind, .turn went stands fewer turns, left⟩

include goes stops starts ends in
/-- Brackets around such stretches. -/
theorem spans_bracketed {opening : UInt8} {closer : Reader Unit} {whole : Cursor → α → Cursor → Prop}
    {value : α} (here : ∀ one ∈ given, begins (written one))
    (spans : ∀ one ∈ given, Spans item (written one) one)
    (closes : Reads Anything closer [closing] ())
    (stands : ∀ {cursor between behind : Cursor}, Begins opening cursor.rest →
      Turns goesOn item true cursor.advance given between → closer.Gives between () behind →
        whole cursor value behind) :
    Spans whole (opening :: (separated written given ++ [closing])) value := by
  intro cursor tail follows rest
  have inside : cursor.advance.rest = separated written given ++ [closing] ++ tail :=
    Cursor.rest_advance rest
  rw [List.append_assoc] at inside
  have ended : Begins closing ([closing] ++ tail) := rfl
  obtain ⟨between, turns, reached⟩ := turns_of_separated goes stops starts ends here spans ended inside
  obtain ⟨behind, closed, left⟩ := closes trivial reached
  exact ⟨behind, stands (by rw [rest]; rfl) turns closed, left⟩

end Loops

/-- An item of a list begins with something, and does so in front of anything. -/
theorem BeginsItem.starts {stretch : Octets} (tail : Octets) (begins : BeginsItem stretch) :
    stretch ≠ [] ∧ BeginsItem (stretch ++ tail) := by
  refine ⟨?_, begins.append tail⟩
  rintro rfl
  obtain ⟨octet, next, -⟩ := begins
  cases next

theorem Begins.starts {octet : UInt8} {stretch : Octets} (tail : Octets)
    (begins : Begins octet stretch) : stretch ≠ [] ∧ Begins octet (stretch ++ tail) := by
  refine ⟨?_, begins.append tail⟩
  rintro rfl
  cases begins

theorem spans_entry {inner : Cursor → Json → Cursor → Prop} {field : String × Json}
    (spans : Spans inner (written field.2) field.2) :
    Spans (Entry inner) (writtenField field) field := by
  intro cursor tail ends rest
  rw [writtenField, List.append_assoc] at rest
  obtain ⟨after, named, reached⟩ := reads_quotedString field.1 trivial rest
  have marks : Reads Anything colon [0x3A] () := reads_colon
  obtain ⟨marked, marks, reached⟩ := marks trivial reached
  obtain ⟨behind, given, left⟩ := spans ends reached
  exact ⟨behind, .intro named marks given, left⟩

section Values

variable {limit : Nat} {value : Json} {octet : UInt8} {stretch : Octets}

/-- A value that does not begin with a blank stands where it is looked for. -/
theorem Spans.spelt (notBlank : Cursor.isBlank octet = false)
    (spans : Spans (Stands limit (Spelt limit)) (octet :: stretch) value) :
    Spans (Spelt (limit + 1)) (octet :: stretch) value := by
  intro cursor tail ends rest
  obtain ⟨behind, stands, left⟩ := spans ends rest
  refine ⟨behind, ?_, left⟩
  change Stands limit (Spelt limit) cursor.skipBlanks value behind
  rwa [Cursor.skipBlanks_of_not_blank rest notBlank]

/-- A word behind its first octet. -/
theorem spans_word {word : Octets} (stands : ∀ {cursor behind : Cursor},
      Begins octet cursor.rest → (Reader.word word).Gives cursor.advance () behind →
        Stands limit (Spelt limit) cursor value behind) :
    Spans (Stands limit (Spelt limit)) (octet :: word) value := by
  intro cursor tail ends rest
  have reads : Reads Anything (Reader.word word) word () := reads_word word
  obtain ⟨behind, spelt, left⟩ := reads trivial (Cursor.rest_advance rest)
  exact ⟨behind, stands (by rw [rest]; rfl) spelt, left⟩

end Values

end Reader

open Reader in
/-- What is printed is spelt, if there is room for its nesting. -/
theorem Plain.spans {depth : Nat} {value : Json} (plain : Plain depth value) (limit : Nat)
    (room : depth < limit) : Spans (Spelt limit) (written value) value := by
  induction plain generalizing limit with
  | null =>
      obtain ⟨limit, rfl⟩ := Nat.exists_eq_add_of_lt room
      exact Spans.spelt rfl (spans_word .null)
  | @bool depth value =>
      obtain ⟨limit, rfl⟩ := Nat.exists_eq_add_of_lt room
      cases value with
      | true => exact Spans.spelt rfl (spans_word .yes)
      | false => exact Spans.spelt rfl (spans_word .no)
  | @whole depth value low high =>
      obtain ⟨limit, rfl⟩ := Nat.exists_eq_add_of_lt room
      have read := reads_number low high
      obtain ⟨octet, later, given, first⟩ := exists_cons_number value
      rw [written, print]
      rw [given] at read ⊢
      refine Spans.spelt (notBlank_of_number first).1 fun cursor tail ends rest => ?_
      obtain ⟨behind, spelt, left⟩ := read ends rest
      exact ⟨behind, .number (by rw [rest]; rfl) first spelt, left⟩
  | @string depth text =>
      obtain ⟨limit, rfl⟩ := Nat.exists_eq_add_of_lt room
      obtain ⟨later, given⟩ := List.head?_eq_some_iff.mp (begins_printString text)
      have read := reads_quotedString text
      rw [written, print]
      rw [given] at read ⊢
      refine Spans.spelt rfl fun cursor tail ends rest => ?_
      obtain ⟨behind, spelt, left⟩ := read trivial rest
      exact ⟨behind, .string (by rw [rest]; rfl) spelt, left⟩
  | @array depth items plain ih =>
      obtain ⟨limit, rfl⟩ := Nat.exists_eq_add_of_lt room
      rw [written_array]
      exact Spans.spelt rfl (spans_bracketed reads_hasItem_true reads_hasItem_false BeginsItem.starts
        (fun closes => closes.ends (by decide)) (fun item mem => beginsItem_written (plain item mem))
        (fun item mem => ih item mem (depth + 1 + limit) (by omega)) reads_endList
        fun begins => .array begins (by omega))
  | @object depth fields distinct plain ih =>
      obtain ⟨limit, rfl⟩ := Nat.exists_eq_add_of_lt room
      rw [written_object]
      exact Spans.spelt rfl (spans_bracketed reads_hasKey_true reads_hasKey_false Begins.starts
        (fun closes => closes.ends (by decide)) (fun field _ => begins_writtenField field)
        (fun field mem => spans_entry (ih field mem (depth + 1 + limit) (by omega))) reads_endObject
        fun begins => .object begins (by omega))

/-- The text of a value spells it. -/
theorem Plain.spells {value : Json} (plain : Plain 127 value) : Spells value.written value := by
  have start : (Cursor.start value.written).rest = value.written ++ [] := (List.append_nil _).symm
  obtain ⟨behind, spelt, rest⟩ := plain.spans Cursor.depthLimit (by decide) (by simp [Reader.Ends]) start
  exact ⟨behind, spelt, by rw [Cursor.skipBlanks_of_nil rest, rest]⟩

end ResilientHttp.Json
