import ResilientHttp.Proofs.Json.Roundtrip
import ResilientHttp.Proofs.Json.Steady

/-!
How a text spells a value. `Spells octets json` says it of a whole text, with blanks, escapes and numbers
written in any way that is read; other than a value that was read, `json` has the entries of its objects
as they are written, in their order and as often as they are there.

* `Gives` — a reader succeeds; `gives_bind_iff` and the lemmas beside it for each way of putting readers
  together.
* `Turns` — the turns of a loop over a list or an object; `Turns.of_items_go` and `Turns.of_entries_go`
  from a loop that came to its end, `Turns.items_go` and `Turns.entries_go` back to any loop that takes
  each item.
* `Spelt` — by recursion on the levels of nesting that are left, with `Stands` for one level.
* `gives_valueWithin_iff` — values are read from what is spelt and from nothing else, with the fields of
  objects put in order; by induction on the levels.
* `Spelt.withDepth`, `Spelt.left_le` — how much room the cursor has for nesting does not matter, and
  nothing is read twice.
-/

namespace ResilientHttp.Json

namespace Reader

/-! ### Readers that succeed -/

/-- The reader succeeds at a cursor with a value, and comes to another cursor. -/
def Gives (reader : Reader α) (cursor : Cursor) (value : α) (behind : Cursor) : Prop :=
  reader cursor = (.ok value, behind)

section Steps

variable {reader : Reader α} {next : α → Reader β} {closing : Reader Unit}
  {cursor after between behind : Cursor} {octet : UInt8} {value : α} {result : β}

/-- Two steps succeed if the first one does, and the second one from where that has come to. -/
theorem gives_bind_iff : (reader >>= next).Gives cursor result behind ↔
    ∃ value after, reader.Gives cursor value after ∧ (next value).Gives after result behind := by
  change Reader.bind reader next cursor = _ ↔ _
  simp only [Gives, Reader.bind]
  rcases ran : reader cursor with ⟨error | value, after⟩
  · simp
  · constructor
    · exact fun second => ⟨value, after, rfl, second⟩
    · rintro ⟨_, _, same, second⟩
      cases same
      exact second

theorem Gives.bind (first : reader.Gives cursor value after)
    (second : (next value).Gives after result behind) : (reader >>= next).Gives cursor result behind :=
  gives_bind_iff.mpr ⟨value, after, first, second⟩

theorem gives_pure : (pure value : Reader α).Gives cursor value cursor := rfl

theorem gives_pure_iff {other : α} :
    (pure value : Reader α).Gives cursor other behind ↔ value = other ∧ cursor = behind := by
  simp [Gives, pure]

theorem Gives.map {f : α → β} (first : reader.Gives cursor value behind) :
    (reader >>= fun value => Reader.pure (f value)).Gives cursor (f value) behind :=
  first.bind gives_pure

theorem gives_skip : skip.Gives cursor () cursor.advance := rfl

theorem gives_peekBlank : peekBlank.Gives cursor cursor.skipBlanks.rest.head? cursor.skipBlanks := rfl

theorem gives_skip_iff {next : Unit → Reader β} :
    (skip >>= next).Gives cursor result behind ↔ (next ()).Gives cursor.advance result behind :=
  Iff.rfl

theorem Gives.peekBlank {next : Option UInt8 → Reader β} (begins : Begins octet cursor.skipBlanks.rest)
    (second : (next (some octet)).Gives cursor.skipBlanks result behind) :
    (Reader.peekBlank >>= next).Gives cursor result behind := by
  refine gives_peekBlank.bind ?_
  rwa [begins]

/-- What is between brackets was read, and the closing behind it. -/
theorem gives_closedBy_iff : (closedBy reader closing).Gives cursor value behind ↔
    ∃ between, reader.Gives cursor value between ∧ closing.Gives between () behind := by
  simp only [Gives, closedBy]
  rcases reader cursor with ⟨error | inside, between⟩
  · simp
  · dsimp only
    rcases closed : closing between with ⟨error | done, after⟩
    · constructor
      · intro same
        cases same
      · rintro ⟨_, same, ended⟩
        cases same
        rw [closed] at ended
        cases ended
    · constructor
      · intro same
        cases same
        exact ⟨between, rfl, closed⟩
      · rintro ⟨_, same, ended⟩
        cases same
        rw [closed] at ended
        cases ended
        rfl

/-- A whole text is read if nothing but blanks is left. -/
theorem run_eq_ok_iff {octets : Octets} : reader.run octets = .ok value ↔
    ∃ behind, reader.Gives (Cursor.start octets) value behind ∧ behind.skipBlanks.rest = [] := by
  have outcome : reader.run octets = .ok value ↔
      ∃ behind, (run.complete reader).Gives (Cursor.start octets) value behind :=
    ⟨fun ran => ⟨_, Prod.ext ran rfl⟩, fun ⟨_, ran⟩ => congrArg Prod.fst ran⟩
  rw [outcome]
  simp only [run.complete, gives_bind_iff]
  constructor
  · rintro ⟨behind, read, after, ran, _, _, looked, ended⟩
    cases looked
    split at ended
    · rename_i nothing
      cases ended
      exact ⟨after, ran, List.head?_eq_none_iff.mp nothing⟩
    · cases ended
  · rintro ⟨behind, ran, nothing⟩
    refine ⟨behind.skipBlanks, value, behind, ran, _, _, gives_peekBlank, ?_⟩
    rw [nothing]
    exact gives_pure

end Steps

/-! ### Loops -/

/-- The turns of a loop: what `goesOn` finds another item by is the first thing in each, and what is left
becomes less. -/
inductive Turns (goesOn : Bool → Reader Bool) (item : Cursor → ε → Cursor → Prop) :
    Bool → Cursor → List ε → Cursor → Prop
  | stop {first cursor behind} (stops : (goesOn first).Gives cursor false behind) :
      Turns goesOn item first cursor [] behind
  | turn {first cursor after one between others behind}
      (goes : (goesOn first).Gives cursor true after) (stands : item after one between)
      (fewer : between.left < cursor.left) (later : Turns goesOn item false between others behind) :
      Turns goesOn item first cursor (one :: others) behind

namespace Turns

variable {goesOn : Bool → Reader Bool} {item : Cursor → ε → Cursor → Prop} {first : Bool}
  {cursor behind : Cursor} {given : List ε}

theorem left_le (steady : ∀ first, Steady (goesOn first))
    (turns : Turns goesOn item first cursor given behind) : behind.left ≤ cursor.left := by
  induction turns with
  | stop stops => exact (steady _).left_le stops
  | turn goes stands fewer later ih => exact Nat.le_trans ih (Nat.le_of_lt fewer)

/-- The same turns are taken with other room for nesting. -/
theorem withDepth (steady : ∀ first, Steady (goesOn first)) (depth : Nat)
    (levels : ∀ {cursor one behind}, item cursor one behind →
      item (cursor.withDepth depth) one (behind.withDepth depth))
    (turns : Turns goesOn item first cursor given behind) :
    Turns goesOn item first (cursor.withDepth depth) given (behind.withDepth depth) := by
  induction turns with
  | stop stops => exact stop ((steady _).of_ok stops depth)
  | turn goes stands fewer later ih =>
      exact turn ((steady _).of_ok goes depth) (levels stands) fewer ih

/-- All items are at the level of the loop. -/
theorem leveled (steady : ∀ first, Steady (goesOn first))
    (keeps : ∀ {cursor one behind}, item cursor one behind → behind.depth = cursor.depth)
    {depth : Nat} (turns : Turns goesOn item first cursor given behind) (level : cursor.depth = depth) :
    Turns goesOn (fun cursor one behind => item cursor one behind ∧ cursor.depth = depth) first cursor
      given behind ∧ behind.depth = depth := by
  induction turns with
  | stop stops => exact ⟨stop stops, ((steady _).depth_eq stops).trans level⟩
  | turn goes stands fewer later ih =>
      have same := ((steady _).depth_eq goes).trans level
      obtain ⟨turns, ended⟩ := ih ((keeps stands).trans same)
      exact ⟨turn goes ⟨stands, same⟩ fewer turns, ended⟩

/-- A list that was read has turns. -/
theorem of_items_go {reader : Reader α} {value : ε → α} {read result : List α}
    (each : ∀ {cursor found behind}, reader.Gives cursor found behind →
      ∃ one, item cursor one behind ∧ value one = found)
    (ran : items.go reader first read cursor = (.ok result, behind)) :
    ∃ given, Turns hasItem item first cursor given behind ∧
      read.reverse ++ given.map value = result := by
  fun_induction items.go reader first read cursor with
  | case1 | case3 | case5 => cases ran
  | case2 first read cursor after stops =>
      cases ran
      exact ⟨[], stop stops, List.append_nil _⟩
  | case4 first read cursor after goes found between took fewer ih =>
      obtain ⟨one, stands, rfl⟩ := each took
      obtain ⟨given, turns, rfl⟩ := ih ran
      refine ⟨one :: given, turn goes stands fewer turns, ?_⟩
      rw [List.reverse_cons, List.append_assoc]
      rfl

/-- Where each item is read as its value, the list is read as the values. -/
theorem items_go {reader : Reader α} {given : List ι} {write : ι → ε} {value : ι → α}
    (read : List α) (turns : Turns hasItem item first cursor (given.map write) behind)
    (each : ∀ one ∈ given, ∀ {cursor behind}, item cursor (write one) behind →
      reader.Gives cursor (value one) behind) :
    items.go reader first read cursor = (.ok (read.reverse ++ given.map value), behind) := by
  induction given generalizing first read cursor with
  | nil =>
      cases turns with
      | stop stops =>
          rw [items.go, stops, List.map_nil, List.append_nil]
  | cons one others ih =>
      obtain ⟨takes, each⟩ := List.forall_mem_cons.mp each
      cases turns with
      | turn goes stands fewer later =>
          rw [items.go, goes]
          dsimp only
          rw [takes stands]
          dsimp only
          rw [if_pos fewer, ih (value one :: read) later each, List.reverse_cons, List.append_assoc]
          rfl

/-- An object that was read has turns. -/
theorem of_entries_go {entry : σ → Reader σ} {step : σ → ε → σ} {state result : σ}
    (each : ∀ {state cursor next behind}, (entry state).Gives cursor next behind →
      ∃ one, item cursor one behind ∧ step state one = next)
    (ran : entries.go entry first state cursor = (.ok result, behind)) :
    ∃ given, Turns hasKey item first cursor given behind ∧ given.foldl step state = result := by
  fun_induction entries.go entry first state cursor with
  | case1 | case3 | case5 => cases ran
  | case2 first state cursor after stops =>
      cases ran
      exact ⟨[], stop stops, rfl⟩
  | case4 first state cursor after goes next between took fewer ih =>
      obtain ⟨one, stands, rfl⟩ := each took
      obtain ⟨given, turns, rfl⟩ := ih ran
      exact ⟨one :: given, turn goes stands fewer turns, rfl⟩

/-- Where each entry leads from the state of those before it to its own, the object is read into the
state of all entries. -/
theorem entries_go {entry : σ → Reader σ} (state : List ε → σ) (before : List ε)
    (turns : Turns hasKey item first cursor given behind)
    (each : ∀ front one back, before ++ given = front ++ one :: back → ∀ {cursor behind},
      item cursor one behind → (entry (state front)).Gives cursor (state (front ++ [one])) behind) :
    entries.go entry first (state before) cursor = (.ok (state (before ++ given)), behind) := by
  induction turns generalizing before with
  | stop stops => rw [entries.go, stops, List.append_nil]
  | @turn _ _ _ one _ others _ goes stands fewer later ih =>
      have moved : before ++ one :: others = before ++ [one] ++ others := List.append_cons ..
      rw [entries.go, goes]
      dsimp only
      rw [each before one others rfl stands]
      dsimp only
      rw [if_pos fewer, moved]
      exact ih (before ++ [one]) (moved ▸ each)

end Turns

/-! ### Values -/

/-- An entry of an object: a name, a colon and a value. -/
inductive Entry (value : Cursor → Json → Cursor → Prop) : Cursor → String × Json → Cursor → Prop
  | intro {cursor after marked behind name json} (named : key.Gives cursor name after)
      (marks : colon.Gives after () marked) (given : value marked json behind) :
      Entry value cursor (name, json) behind

/-- A value stands where its first octet is. Lists and objects need room for another level, whose values
are those of `inner`. -/
inductive Stands (depth : Nat) (inner : Cursor → Json → Cursor → Prop) :
    Cursor → Json → Cursor → Prop
  | null {cursor behind} (begins : Begins 0x6E cursor.rest)
      (spelt : (word [0x75, 0x6C, 0x6C]).Gives cursor.advance () behind) :
      Stands depth inner cursor .null behind
  | yes {cursor behind} (begins : Begins 0x74 cursor.rest)
      (spelt : (word [0x72, 0x75, 0x65]).Gives cursor.advance () behind) :
      Stands depth inner cursor (.bool true) behind
  | no {cursor behind} (begins : Begins 0x66 cursor.rest)
      (spelt : (word [0x61, 0x6C, 0x73, 0x65]).Gives cursor.advance () behind) :
      Stands depth inner cursor (.bool false) behind
  | string {cursor text behind} (begins : Begins 0x22 cursor.rest)
      (spelt : quotedString.Gives cursor text behind) : Stands depth inner cursor (.string text) behind
  | number {cursor octet value behind} (begins : Begins octet cursor.rest)
      (starts : octet = 0x2D ∨ isDigit octet = true) (spelt : number.Gives cursor value behind) :
      Stands depth inner cursor (.number value) behind
  | array {cursor items between behind} (begins : Begins 0x5B cursor.rest) (room : depth ≠ 0)
      (inside : Turns hasItem inner true cursor.advance items between)
      (closes : endList.Gives between () behind) : Stands depth inner cursor (.array items) behind
  | object {cursor entries between behind} (begins : Begins 0x7B cursor.rest) (room : depth ≠ 0)
      (inside : Turns hasKey (Entry inner) true cursor.advance entries between)
      (closes : endObject.Gives between () behind) : Stands depth inner cursor (.object entries) behind

/-- A value, perhaps behind blanks, with at most `depth - 1` levels of nesting. -/
def Spelt : Nat → Cursor → Json → Cursor → Prop
  | 0, _, _, _ => False
  | depth + 1, cursor, json, behind => Stands depth (Spelt depth) cursor.skipBlanks json behind

end Reader

/-- The whole text is a value, with blanks at most around it. -/
def Spells (octets : Octets) (json : Json) : Prop :=
  ∃ behind, Reader.Spelt Cursor.depthLimit (Cursor.start octets) json behind ∧
    behind.skipBlanks.rest = []

namespace Reader

variable {depth : Nat} {cursor behind : Cursor} {json : Json}

/-- There is a level for what is spelt. -/
theorem Spelt.stands (spelt : Spelt depth cursor json behind) :
    ∃ inner, depth = inner + 1 ∧ Stands inner (Spelt inner) cursor.skipBlanks json behind := by
  cases depth with
  | zero => exact spelt.elim
  | succ inner => exact ⟨inner, rfl, spelt⟩

/-- An entry of an object, read into the fields before it. -/
def entryInto (reader : Reader Json) (fields : List (String × Json)) :
    Reader (List (String × Json)) := do
  let name ← key
  colon
  let item ← reader
  pure (insertField name item fields)

theorem gives_entryInto {inner : Cursor → Json → Cursor → Prop} {reader : Reader Json}
    {field : String × Json} (each : ∀ {cursor behind json}, inner cursor json behind →
      reader.Gives cursor json.sorted behind) (entry : Entry inner cursor field behind)
    (front : List (String × Json)) :
    (entryInto reader (front.foldl addField [])).Gives cursor ((front ++ [field]).foldl addField [])
      behind := by
  rw [List.foldl_append]
  cases entry with
  | intro named marks given => exact named.bind (marks.bind ((each given).bind gives_pure))

/-- What is spelt is read, with the fields of objects in order. -/
theorem Spelt.gives_valueWithin (spelt : Spelt depth cursor json behind) :
    (valueWithin depth).Gives cursor json.sorted behind := by
  induction depth generalizing cursor json behind with
  | zero => exact spelt.elim
  | succ depth ih =>
      change Stands depth (Spelt depth) cursor.skipBlanks json behind at spelt
      rw [valueWithin]
      cases spelt with
      | null begins spelt => exact .peekBlank begins (gives_skip_iff.mpr spelt.map)
      | yes begins spelt => exact .peekBlank begins (gives_skip_iff.mpr spelt.map)
      | no begins spelt => exact .peekBlank begins (gives_skip_iff.mpr spelt.map)
      | string begins spelt => exact .peekBlank begins spelt.map
      | number begins starts spelt =>
          refine .peekBlank begins ?_
          -- What begins a number begins nothing else.
          split
          case h_1 next => cases next
          case h_8 next =>
            cases next
            rw [if_pos starts]
            exact spelt.map
          all_goals
            rename_i next
            cases next
            exact absurd starts (by decide)
      | array begins room inside closes =>
          rename_i given between
          have all : Turns hasItem (Spelt depth) true cursor.skipBlanks.advance
            (given.map id) between := by rwa [List.map_id]
          have read := all.items_go [] fun one _ => ih
          refine .peekBlank begins ?_
          change Gives (if depth = 0 then failNext .tooDeep else _) _ _ _
          rw [if_neg room, sorted, sortedItems_eq]
          exact gives_skip_iff.mpr (Gives.map (gives_closedBy_iff.mpr ⟨between, read, closes⟩))
      | object begins room inside closes =>
          rename_i given between
          have read := inside.entries_go (fun front => front.foldl addField []) []
            fun front one back _ _ _ stands => gives_entryInto ih stands front
          have taken : (closedBy (entries (entryInto (valueWithin depth)) []) endObject).Gives
              cursor.skipBlanks.advance (given.foldl addField []) behind :=
            gives_closedBy_iff.mpr ⟨between, read, closes⟩
          refine .peekBlank begins ?_
          change Gives (if depth = 0 then failNext .tooDeep else _) _ _ _
          rw [if_neg room, sorted, sortedFields_eq]
          refine gives_skip_iff.mpr ?_
          exact taken.map

/-- What an entry adds to the fields before it was its field. -/
theorem entry_of_gives {inner : Cursor → Json → Cursor → Prop} {reader : Reader Json}
    {fields next : List (String × Json)} (each : ∀ {cursor behind tree},
      reader.Gives cursor tree behind → ∃ json, inner cursor json behind ∧ json.sorted = tree)
    (ran : (entryInto reader fields).Gives cursor next behind) :
    ∃ field, Entry inner cursor field behind ∧ addField fields field = next := by
  obtain ⟨name, after, named, ran⟩ := gives_bind_iff.mp ran
  obtain ⟨_, marked, marks, ran⟩ := gives_bind_iff.mp ran
  obtain ⟨tree, _, took, ended⟩ := gives_bind_iff.mp ran
  cases ended
  obtain ⟨json, given, rfl⟩ := each took
  exact ⟨(name, json), .intro named marks given, rfl⟩

/-- What was read is spelt, with the fields of objects in the order of the text. -/
theorem spelt_of_gives {tree : Json} (ran : (valueWithin depth).Gives cursor tree behind) :
    ∃ json, Spelt depth cursor json behind ∧ json.sorted = tree := by
  induction depth generalizing cursor tree behind with
  | zero => cases ran
  | succ depth ih =>
      change ∃ json, Stands depth (Spelt depth) cursor.skipBlanks json behind ∧ _
      rw [valueWithin] at ran
      obtain ⟨_, _, looked, ran⟩ := gives_bind_iff.mp ran
      cases looked
      split at ran
      case h_1 => cases ran
      case h_2 begins =>
        obtain ⟨_, _, spelt, ended⟩ := gives_bind_iff.mp (gives_skip_iff.mp ran)
        cases ended
        exact ⟨.null, .null begins spelt, rfl⟩
      case h_3 begins =>
        obtain ⟨_, _, spelt, ended⟩ := gives_bind_iff.mp (gives_skip_iff.mp ran)
        cases ended
        exact ⟨.bool true, .yes begins spelt, rfl⟩
      case h_4 begins =>
        obtain ⟨_, _, spelt, ended⟩ := gives_bind_iff.mp (gives_skip_iff.mp ran)
        cases ended
        exact ⟨.bool false, .no begins spelt, rfl⟩
      case h_5 begins =>
        obtain ⟨text, _, spelt, ended⟩ := gives_bind_iff.mp ran
        cases ended
        exact ⟨.string text, .string begins spelt, rfl⟩
      case h_6 begins =>
        split at ran
        · cases ran
        · rename_i room
          obtain ⟨read, _, closed, ended⟩ := gives_bind_iff.mp (gives_skip_iff.mp ran)
          cases ended
          obtain ⟨between, inside, closes⟩ := gives_closedBy_iff.mp closed
          obtain ⟨given, turns, rfl⟩ := Turns.of_items_go ih inside
          refine ⟨.array given, .array begins room turns closes, ?_⟩
          rw [sorted, sortedItems_eq]
          rfl
      case h_7 begins =>
        split at ran
        · cases ran
        · rename_i room
          obtain ⟨read, _, closed, ended⟩ := gives_bind_iff.mp (gives_skip_iff.mp ran)
          cases ended
          obtain ⟨between, inside, closes⟩ := gives_closedBy_iff.mp closed
          obtain ⟨given, turns, rfl⟩ := Turns.of_entries_go (entry_of_gives ih) inside
          refine ⟨.object given, .object begins room turns closes, ?_⟩
          rw [sorted, sortedFields_eq]
      case h_8 begins =>
        split at ran
        · rename_i starts
          obtain ⟨value, _, spelt, ended⟩ := gives_bind_iff.mp ran
          cases ended
          exact ⟨.number value, .number begins starts spelt, rfl⟩
        · cases ran

/-- A value is read where it is spelt, with the fields of objects in order. -/
theorem gives_valueWithin_iff {tree : Json} : (valueWithin depth).Gives cursor tree behind ↔
    ∃ json, Spelt depth cursor json behind ∧ json.sorted = tree := by
  refine ⟨spelt_of_gives, ?_⟩
  rintro ⟨json, spelt, rfl⟩
  exact spelt.gives_valueWithin

/-! ### Cursors of what is spelt -/

theorem Entry.withDepth {inner : Cursor → Json → Cursor → Prop} {field : String × Json} (level : Nat)
    (levels : ∀ {cursor json behind}, inner cursor json behind →
      inner (cursor.withDepth level) json (behind.withDepth level))
    (entry : Entry inner cursor field behind) :
    Entry inner (cursor.withDepth level) field (behind.withDepth level) := by
  cases entry with
  | intro named marks given =>
      exact .intro (Steady.quotedString.of_ok named level) (Steady.colon.of_ok marks level)
        (levels given)

/-- A value is spelt the same with other room for nesting. -/
theorem Spelt.withDepth (level : Nat) (spelt : Spelt depth cursor json behind) :
    Spelt depth (cursor.withDepth level) json (behind.withDepth level) := by
  induction depth generalizing cursor json behind with
  | zero => exact spelt
  | succ depth ih =>
      change Stands depth (Spelt depth) cursor.skipBlanks json behind at spelt
      change Stands depth (Spelt depth) (cursor.withDepth level).skipBlanks json _
      rw [Cursor.skipBlanks_withDepth]
      cases spelt with
      | null begins spelt =>
          refine .null begins ?_
          rw [Cursor.advance_withDepth]
          exact (Steady.word _).of_ok spelt level
      | yes begins spelt =>
          refine .yes begins ?_
          rw [Cursor.advance_withDepth]
          exact (Steady.word _).of_ok spelt level
      | no begins spelt =>
          refine .no begins ?_
          rw [Cursor.advance_withDepth]
          exact (Steady.word _).of_ok spelt level
      | string begins spelt => exact .string begins (Steady.quotedString.of_ok spelt level)
      | number begins starts spelt => exact .number begins starts (Steady.number.of_ok spelt level)
      | array begins room inside closes =>
          refine .array begins room ?_ (Steady.endList.of_ok closes level)
          rw [Cursor.advance_withDepth]
          exact inside.withDepth Steady.hasItem level ih
      | object begins room inside closes =>
          refine .object begins room ?_ (Steady.endObject.of_ok closes level)
          rw [Cursor.advance_withDepth]
          exact inside.withDepth Steady.hasKey level (Entry.withDepth level ih)

/-- What is spelt at a cursor with other room for nesting leaves the cursor that much. -/
theorem Spelt.depth_eq (spelt : Spelt depth cursor json behind) : behind.depth = cursor.depth := by
  have here := (spelt.withDepth cursor.depth).gives_valueWithin
  rw [Cursor.withDepth_self] at here
  have same := here.symm.trans spelt.gives_valueWithin
  exact congrArg (fun outcome => outcome.2.depth) same.symm

theorem Entry.depth_eq {field : String × Json} (entry : Entry (Spelt depth) cursor field behind) :
    behind.depth = cursor.depth := by
  cases entry with
  | intro named marks given =>
      exact given.depth_eq.trans ((Steady.colon.depth_eq marks).trans (Steady.quotedString.depth_eq named))

theorem Spelt.left_le (spelt : Spelt depth cursor json behind) : behind.left ≤ cursor.left := by
  obtain ⟨inner, rfl, stands⟩ := spelt.stands
  refine Nat.le_trans ?_ (Cursor.left_skipBlanks_le cursor)
  have taken := Cursor.left_advance_le cursor.skipBlanks
  cases stands with
  | null begins spelt => exact Nat.le_trans ((Steady.word _).left_le spelt) taken
  | yes begins spelt => exact Nat.le_trans ((Steady.word _).left_le spelt) taken
  | no begins spelt => exact Nat.le_trans ((Steady.word _).left_le spelt) taken
  | string begins spelt => exact Steady.quotedString.left_le spelt
  | number begins starts spelt => exact Steady.number.left_le spelt
  | array begins room inside closes =>
      exact Nat.le_trans (Steady.endList.left_le closes)
        (Nat.le_trans (inside.left_le Steady.hasItem) taken)
  | object begins room inside closes =>
      exact Nat.le_trans (Steady.endObject.left_le closes)
        (Nat.le_trans (inside.left_le Steady.hasKey) taken)

/-- What is not null does not begin like it. -/
theorem Spelt.begins (spelt : Spelt depth cursor json behind) (notNull : json ≠ .null) :
    ∃ octet, octet ≠ 0x6E ∧ Begins octet cursor.skipBlanks.rest := by
  obtain ⟨inner, rfl, stands⟩ := spelt.stands
  cases stands with
  | null => exact absurd rfl notNull
  | yes begins | no begins | string begins | array begins | object begins =>
      exact ⟨_, by decide, begins⟩
  | number begins starts =>
      refine ⟨_, ?_, begins⟩
      rintro rfl
      exact absurd starts (by decide)

/-- Blanks in front of a value may be passed over before. -/
theorem spelt_skipBlanks_iff :
    Spelt depth cursor.skipBlanks json behind ↔ Spelt depth cursor json behind := by
  cases depth with
  | zero => rfl
  | succ depth =>
      change Stands depth (Spelt depth) cursor.skipBlanks.skipBlanks json behind ↔ _
      rw [Cursor.skipBlanks_skipBlanks]
      rfl

end Reader

/-- The texts that are read as a value are those that spell it, with the fields of objects in order. -/
theorem run_value_eq_ok_iff {octets : Octets} {tree : Json} : Reader.value.run octets = .ok tree ↔
    ∃ json, Spells octets json ∧ json.sorted = tree := by
  rw [Reader.run_eq_ok_iff]
  constructor
  · rintro ⟨behind, ran, nothing⟩
    obtain ⟨json, spelt, same⟩ := Reader.gives_valueWithin_iff.mp ran
    exact ⟨json, ⟨behind, spelt, nothing⟩, same⟩
  · rintro ⟨json, ⟨behind, spelt, nothing⟩, same⟩
    exact ⟨behind, Reader.gives_valueWithin_iff.mpr ⟨json, spelt, same⟩, nothing⟩

end ResilientHttp.Json
