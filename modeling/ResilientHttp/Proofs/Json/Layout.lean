import ResilientHttp.Proofs.Json.Decoding

/-!
Records that are written in part. A `Layout` says what each field of a value may be given as and what is
left of the value when some fields are not given; `Describes` ties it to a record with a check of one
field at a time.

* `Describes.gives_readEntry` — one entry of an object in the text: a known field moves from one `reached`
  state to the next, and an unknown one stays.
* `Describes.takes_object`, `Describes.takes_array` — from it by the turns of the loop in the text, and by
  induction on the entries in the tree, where the names have been put in order.
* `Describes.readBy` — both shapes, and that the list is read as the object.
-/

namespace ResilientHttp.Json

open Reader (Spelt Gives Turns Entry)

/-- How a structure is written: the names of its fields in declared order, what is left of a value when
only some fields are given, and what each field of a value may be given as. -/
structure Layout (σ : Type) where
  names : List String
  keeping : σ → List String → σ
  gives : σ → String → Json → Prop

/-- A field takes a spelt value and leads from one state to another. -/
structure Field.Takes (field : Field σ) (json : Json) (state next : σ) : Prop where
  text : ∀ {depth cursor behind}, Spelt depth cursor json behind → depth ≤ cursor.depth →
    (field.fromText state).Gives cursor next behind
  tree : field.fromValue state json.sorted = .ok next

@[simp] theorem Field.of_name (name : String) (optional : Bool) (decoder : Decoder α)
    (store : σ → α → σ) : (Field.of name optional decoder store).name = name := rfl

theorem Decoder.Takes.field {decoder : Decoder α} {json : Json} {value : α} {store : σ → α → σ}
    {name : String} {optional : Bool} {state next : σ} (takes : decoder.Takes json value)
    (stores : store state value = next) :
    (Field.of name optional decoder store).Takes json state next where
  text spelt room := stores ▸ (takes.text spelt room).map
  tree := by
    simp only [Field.of, takes.tree, ← stores]
    rfl

theorem map_fst_zip_eq_take (names : List String) (items : List Json) :
    (names.zip items).map Prod.fst = names.take items.length := by
  induction names generalizing items with
  | nil => simp
  | cons name names ih =>
      cases items with
      | nil => rfl
      | cons item items => rw [List.zip_cons_cons, List.map_cons, ih, List.length_cons, List.take_succ_cons]

section Fields

variable {name other : String} {fields entries : List (String × Json)} {field : String × Json}

theorem mem_insertField {value : Json} (mem : field ∈ insertField name value fields) :
    field = (name, value) ∨ field ∈ fields := by
  induction fields with
  | nil => exact .inl (List.mem_singleton.mp mem)
  | cons first later ih =>
      rw [insertField] at mem
      split at mem
      · obtain rfl | mem := List.mem_cons.mp mem
        · exact .inl rfl
        · exact .inr (List.mem_cons_of_mem _ mem)
      · split at mem
        · exact List.mem_cons.mp mem
        · obtain rfl | mem := List.mem_cons.mp mem
          · exact .inr List.mem_cons_self
          · exact (ih mem).imp_right (List.mem_cons_of_mem _)

theorem mem_names_insertField {value : Json} :
    other ∈ (insertField name value fields).map Prod.fst ↔ other = name ∨ other ∈ fields.map Prod.fst := by
  induction fields with
  | nil => simp [insertField]
  | cons first later ih =>
      rw [insertField]
      split
      · rename_i same
        simp [same]
      · split
        · simp
        · rw [List.map_cons, List.mem_cons, ih, List.map_cons, List.mem_cons, or_left_comm]

/-- The fields of a tree are among the entries it was read from, -/
theorem mem_sortedFields {before : List (String × Json)} (mem : field ∈ sortedFields before entries) :
    field ∈ before ∨ ∃ entry ∈ entries, field = (entry.1, entry.2.sorted) := by
  induction entries generalizing before with
  | nil => exact .inl mem
  | cons entry later ih =>
      obtain ⟨name, value⟩ := entry
      rw [sortedFields] at mem
      obtain mem | ⟨entry, mem, same⟩ := ih mem
      · obtain rfl | mem := mem_insertField mem
        · exact .inr ⟨(name, value), List.mem_cons_self, rfl⟩
        · exact .inl mem
      · exact .inr ⟨entry, List.mem_cons_of_mem _ mem, same⟩

/-- and have the same names. -/
theorem mem_names_sortedFields {before : List (String × Json)} :
    other ∈ (sortedFields before entries).map Prod.fst ↔
      other ∈ before.map Prod.fst ∨ other ∈ entries.map Prod.fst := by
  induction entries generalizing before with
  | nil => simp [sortedFields]
  | cons entry later ih =>
      obtain ⟨name, value⟩ := entry
      rw [sortedFields, ih, mem_names_insertField, List.map_cons, List.mem_cons, or_assoc, or_left_comm]

end Fields

namespace Layout

/-- Entries that give fields of a value, each at most once. What is given under other names does not
matter. -/
structure Fits (layout : Layout σ) (whole : σ) (entries : List (String × Json)) : Prop where
  once : ((entries.map Prod.fst).filter (· ∈ layout.names)).Nodup
  given : ∀ entry ∈ entries, entry.1 ∈ layout.names → layout.gives whole entry.1 entry.2

/-- What some fields of a value are written as: an object that gives them, or the list of the first
ones. -/
inductive Writes (layout : Layout σ) : σ → Json → Prop
  | object {whole entries} (fits : layout.Fits whole entries) :
      layout.Writes (layout.keeping whole (entries.map Prod.fst)) (.object entries)
  | list {whole items} (short : items.length ≤ layout.names.length)
      (gives : ∀ entry ∈ layout.names.zip items, layout.gives whole entry.1 entry.2) :
      layout.Writes (layout.keeping whole (layout.names.take items.length)) (.array items)

/-- A decoder reads what is written in this layout, from the text and from the tree. What is not given has
its default. -/
structure ReadBy (layout : Layout σ) (decoder : Decoder σ) : Prop where
  /-- In an object any fields may be given, in any order. -/
  object : ∀ {whole entries}, layout.Fits whole entries →
    decoder.ReadsAs (.object entries) (layout.keeping whole (entries.map Prod.fst))
  /-- In a list they are the first ones. It is read as every object that gives just these. -/
  list : ∀ {whole items}, items.length ≤ layout.names.length →
    (∀ entry ∈ layout.names.zip items, layout.gives whole entry.1 entry.2) →
    decoder.ReadsAs (.array items) (layout.keeping whole (layout.names.take items.length)) ∧
      ∀ entries : List (String × Json),
        (entries.filter (·.1 ∈ layout.names)).Perm (layout.names.zip items) →
        decoder.ReadsAs (.object entries) (layout.keeping whole (layout.names.take items.length))

/-- The record is written in this layout: no field has to be given, and one that is given is stored. -/
structure Describes (layout : Layout σ) (record : Record σ) : Prop where
  names : record.fields.map (·.name) = layout.names
  distinct : layout.names.Nodup
  initial : ∀ whole, layout.keeping whole [] = record.initial
  optional : ∀ field ∈ record.fields, field.optional = true
  short : record.allowsShort = true
  congr : ∀ whole {given other : List String},
    (∀ name ∈ layout.names, name ∈ given ↔ name ∈ other) →
      layout.keeping whole given = layout.keeping whole other
  takes : ∀ whole given, ∀ field ∈ record.fields, ∀ json, layout.gives whole field.name json →
    field.Takes json (layout.keeping whole given) (layout.keeping whole (given ++ [field.name]))

/-- What is known behind some entries: the fields they give, and their names, the last one first. -/
def reached (layout : Layout σ) (whole : σ) (front : List (String × Json)) : σ × List String :=
  (layout.keeping whole (front.map Prod.fst),
    ((front.map Prod.fst).filter (· ∈ layout.names)).reverse)

namespace Describes

variable {layout : Layout σ} {record : Record σ} (describes : layout.Describes record)

include describes

theorem field?_eq_none {name : String} (none : record.field? name = none) : name ∉ layout.names := by
  rw [← describes.names]
  intro mem
  obtain ⟨field, declared, same⟩ := List.mem_map.mp mem
  have other := List.find?_eq_none.mp none field declared
  simp [same] at other

theorem of_field?_eq_some {name : String} {field : Field σ} (found : record.field? name = some field) :
    field ∈ record.fields ∧ field.name = name ∧ name ∈ layout.names := by
  have mem := List.mem_of_find?_eq_some found
  have same : field.name = name := by simpa using List.find?_some found
  refine ⟨mem, same, ?_⟩
  rw [← describes.names, ← same]
  exact List.mem_map_of_mem mem

/-- An unknown name leaves everything as it is. -/
theorem keeping_append {name : String} (unknown : name ∉ layout.names) (whole : σ)
    (given : List String) : layout.keeping whole (given ++ [name]) = layout.keeping whole given := by
  refine describes.congr whole fun known mem => ?_
  rw [List.mem_append, List.mem_singleton, or_iff_left]
  rintro rfl
  exact unknown mem

/-- Nothing is missing where nothing has to be given. -/
theorem complete_eq (state : σ × List String) : record.complete state = .ok state.1 := by
  have none : record.missing? state.2 = none := by
    rw [Record.missing?, Option.map_eq_none_iff, List.find?_eq_none]
    intro field mem
    simp [describes.optional field mem]
  rw [Record.complete, none]

/-! ### Objects -/

theorem gives_readEntry {whole : σ} {entries front back : List (String × Json)}
    {one : String × Json} (fits : layout.Fits whole entries) (place : entries = front ++ one :: back)
    {depth : Nat} {cursor behind : Cursor} (entry : Entry (Spelt depth) cursor one behind)
    (room : depth ≤ cursor.depth) :
    (record.readEntry (layout.reached whole front)).Gives cursor
      (layout.reached whole (front ++ [one])) behind := by
  cases entry with
  | intro named marks given =>
      rename_i after marked name json
      have level : marked.depth = cursor.depth :=
        (Reader.Steady.colon.depth_eq marks).trans (Reader.Steady.quotedString.depth_eq named)
      refine Reader.gives_bind_iff.mpr ⟨name, after, named, ?_⟩
      cases found : record.field? name with
      | none =>
          have unknown := describes.field?_eq_none found
          have same : layout.reached whole (front ++ [(name, json)]) = layout.reached whole front := by
            rw [reached, reached, List.map_append, List.map_singleton, describes.keeping_append unknown,
              List.filter_append]
            simp [unknown]
          rw [same]
          exact marks.bind (given.gives_ignored.bind Reader.gives_pure)
      | some field =>
          obtain ⟨declared, rfl, known⟩ := describes.of_field?_eq_some found
          have mem : (field.name, json) ∈ entries := by simp [place]
          have takes := describes.takes whole (front.map Prod.fst) field declared json
            (fits.given _ mem known)
          have new : ((layout.reached whole front).2.contains field.name) = false := by
            have once := fits.once
            rw [place, List.map_append, List.map_cons, List.filter_append,
              List.filter_cons_of_pos (by simpa using known), List.nodup_append] at once
            rw [Bool.eq_false_iff, Ne, List.contains_iff_mem, reached, List.mem_reverse]
            exact fun given => once.2.2 _ given _ List.mem_cons_self rfl
          have next : layout.reached whole (front ++ [(field.name, json)]) =
              (layout.keeping whole (front.map Prod.fst ++ [field.name]),
                field.name :: (layout.reached whole front).2) := by
            simp [reached, known]
          dsimp only
          rw [new, next, if_neg (by decide)]
          exact marks.bind ((takes.text given (by omega)).bind Reader.gives_pure)

theorem gives_object {whole : σ} {entries : List (String × Json)} (fits : layout.Fits whole entries)
    {depth : Nat} {cursor behind : Cursor} (spelt : Spelt depth cursor (.object entries) behind)
    (room : depth ≤ cursor.depth) :
    record.decoder.fromText.Gives cursor (layout.keeping whole (entries.map Prod.fst)) behind := by
  obtain ⟨inner, rfl, stands⟩ := spelt.stands
  have level := cursor.depth_skipBlanks
  cases stands with
  | object begins deep inside closes =>
      obtain ⟨turns, left⟩ := inside.inside Reader.Steady.hasKey
        (fun level _ _ _ => Entry.withDepth level (Spelt.withDepth level)) Entry.depth_eq
        (cursor.skipBlanks.depth - 1)
      have read := turns.entries_go (layout.reached whole) [] fun front one back place _ _ entry =>
        describes.gives_readEntry fits place entry.1 (by omega)
      have start : layout.reached whole [] = (record.initial, []) :=
        congrArg (·, []) (describes.initial whole)
      rw [start] at read
      refine Gives.peekValue begins (Gives.bracketed (by omega) (Gives.bind read ?_) (left.symm ▸ closes))
      rw [describes.complete_eq]
      exact Reader.gives_pure

/-- The fields of a tree are read in their order. -/
theorem ofFields_eq {whole : σ} (fields : List (String × Json)) (given seen : List String)
    (fits : ∀ field ∈ fields, field.1 ∈ layout.names →
      ∃ json, layout.gives whole field.1 json ∧ field.2 = json.sorted) :
    ∃ last, record.ofFields fields (layout.keeping whole given, seen) =
      .ok (layout.keeping whole (given ++ fields.map Prod.fst), last) := by
  induction fields generalizing given seen with
  | nil => exact ⟨seen, by rw [Record.ofFields, List.map_nil, List.append_nil]⟩
  | cons field later ih =>
      obtain ⟨name, tree⟩ := field
      obtain ⟨first, others⟩ := List.forall_mem_cons.mp fits
      have moved : given ++ ((name, tree) :: later).map Prod.fst =
          given ++ [name] ++ later.map Prod.fst := List.append_cons ..
      rw [Record.ofFields, moved]
      cases found : record.field? name with
      | none =>
          rw [← describes.keeping_append (describes.field?_eq_none found)]
          exact ih (given ++ [name]) seen others
      | some field =>
          obtain ⟨declared, rfl, known⟩ := describes.of_field?_eq_some found
          obtain ⟨json, gives, rfl⟩ := first known
          have takes := describes.takes whole given field declared json gives
          simp only [takes.tree]
          exact ih (given ++ [field.name]) _ others

/-- An object with any of the fields in any order, and with any others between them. -/
theorem takes_object {whole : σ} {entries : List (String × Json)} (fits : layout.Fits whole entries) :
    record.decoder.Takes (.object entries) (layout.keeping whole (entries.map Prod.fst)) where
  text := describes.gives_object fits
  tree := by
    have gives : ∀ field ∈ sortedFields [] entries, field.1 ∈ layout.names →
        ∃ json, layout.gives whole field.1 json ∧ field.2 = json.sorted := by
      intro field mem known
      obtain mem | ⟨entry, written, rfl⟩ := mem_sortedFields mem
      · cases mem
      · exact ⟨entry.2, fits.given entry written known, rfl⟩
    obtain ⟨last, read⟩ := describes.ofFields_eq (sortedFields [] entries) [] [] gives
    have same : layout.keeping whole ((sortedFields [] entries).map Prod.fst) =
        layout.keeping whole (entries.map Prod.fst) := by
      refine describes.congr whole fun name _ => ?_
      rw [mem_names_sortedFields, List.map_nil, or_iff_right List.not_mem_nil]
    rw [List.nil_append, same, describes.initial] at read
    rw [sorted]
    change (record.ofFields (sortedFields [] entries) (record.initial, []) >>= record.complete) = _
    rw [read]
    exact describes.complete_eq _

/-! ### Lists -/

section Lists

variable {whole : σ} {later : List (Field σ)} {items : List Json}

/-- The fields that are left, from as many items at most; the end of the list is still to be read. -/
theorem gives_readItems (given : List String) (declared : ∀ field ∈ later, field ∈ record.fields) (index : Nat)
    (short : items.length ≤ later.length)
    (gives : ∀ entry ∈ (later.map (·.name)).zip items, layout.gives whole entry.1 entry.2)
    {depth level : Nat} (room : depth ≤ level) {cursor behind : Cursor}
    (turns : Turns Reader.hasItem (fun cursor json behind => Spelt depth cursor json behind ∧
      cursor.depth = level) (index == 0) cursor items behind) :
    ∃ after, (record.readItems later index (layout.keeping whole given)).Gives cursor
        (layout.keeping whole (given ++ (later.map (·.name)).take items.length)) after ∧
      after.skipBlanks = behind.skipBlanks := by
  induction later generalizing index items given cursor with
  | nil =>
      cases turns with
      | turn => cases short
      | stop stops =>
          obtain ⟨-, rfl⟩ := Reader.gives_hasItem_false stops
          refine ⟨cursor, ?_, (Cursor.skipBlanks_skipBlanks cursor).symm⟩
          rw [Record.readItems, List.length_nil, List.take_zero, List.append_nil]
          exact Reader.gives_pure
  | cons field later ih =>
      obtain ⟨here, declared⟩ := List.forall_mem_cons.mp declared
      cases turns with
      | stop stops =>
          refine ⟨behind, ?_, rfl⟩
          rw [Record.readItems, List.length_nil, List.take_zero, List.append_nil]
          refine Gives.bind stops ?_
          rw [if_neg (by decide), if_pos describes.short]
          exact Reader.gives_pure
      | @turn _ _ _ item _ items _ goes stands fewer others =>
          rw [List.map_cons, List.zip_cons_cons] at gives
          obtain ⟨first, gives⟩ := List.forall_mem_cons.mp gives
          have takes := describes.takes whole given field here item first
          obtain ⟨after, read, same⟩ := ih (given ++ [field.name]) declared (index + 1)
            (Nat.le_of_succ_le_succ short) gives others
          refine ⟨after, ?_, same⟩
          rw [Record.readItems, List.map_cons, List.length_cons, List.take_succ_cons, List.append_cons]
          refine Gives.bind goes ?_
          exact (takes.text stands.1 (by omega)).bind read

theorem ofItems_eq (given : List String) (declared : ∀ field ∈ later, field ∈ record.fields) (index : Nat)
    (short : items.length ≤ later.length)
    (gives : ∀ entry ∈ (later.map (·.name)).zip items, layout.gives whole entry.1 entry.2) :
    record.ofItems later index (items.map Json.sorted) (layout.keeping whole given) =
      .ok (layout.keeping whole (given ++ (later.map (·.name)).take items.length), []) := by
  induction later generalizing index items given with
  | nil =>
      cases List.length_eq_zero_iff.mp (Nat.le_zero.mp short)
      rw [List.map_nil, Record.ofItems, List.length_nil, List.take_zero, List.append_nil]
  | cons field later ih =>
      obtain ⟨here, declared⟩ := List.forall_mem_cons.mp declared
      cases items with
      | nil =>
          rw [List.map_nil, Record.ofItems, if_pos describes.short, List.length_nil, List.take_zero,
            List.append_nil]
      | cons item items =>
          rw [List.map_cons, List.zip_cons_cons] at gives
          obtain ⟨first, gives⟩ := List.forall_mem_cons.mp gives
          have takes := describes.takes whole given field here item first
          rw [List.length_cons, List.map_cons, List.map_cons, List.take_succ_cons, List.append_cons,
            Record.ofItems, takes.tree]
          exact ih (given ++ [field.name]) declared (index + 1) (Nat.le_of_succ_le_succ short) gives

/-- A list of the first fields in declared order. -/
theorem takes_array (short : items.length ≤ layout.names.length)
    (gives : ∀ entry ∈ layout.names.zip items, layout.gives whole entry.1 entry.2) :
    record.decoder.Takes (.array items) (layout.keeping whole (layout.names.take items.length)) where
  text {_ cursor behind} spelt room := by
    rw [← describes.names, List.length_map] at short
    rw [← describes.names] at gives ⊢
    obtain ⟨inner, rfl, stands⟩ := spelt.stands
    have level := cursor.depth_skipBlanks
    cases stands with
    | @array _ between _ begins deep inside closes =>
        obtain ⟨turns, left⟩ := inside.inside Reader.Steady.hasItem
          (fun level _ _ _ => Spelt.withDepth level) Spelt.depth_eq (cursor.skipBlanks.depth - 1)
        obtain ⟨after, read, same⟩ := describes.gives_readItems []
          (fun _ mem => mem) 0 short gives (by omega) turns
        rw [describes.initial, List.nil_append] at read
        refine Gives.peekValue begins (Gives.bracketed (by omega) read ?_)
        refine Reader.gives_endList_of_skipBlanks ?_ (left.symm ▸ closes)
        rw [Cursor.skipBlanks_withDepth, same, ← Cursor.skipBlanks_withDepth]
  tree := by
    rw [← describes.names, List.length_map] at short
    rw [← describes.names] at gives ⊢
    have read := describes.ofItems_eq [] (fun _ mem => mem) 0 short gives
    rw [describes.initial, List.nil_append] at read
    rw [sorted, sortedItems_eq]
    change (record.ofItems record.fields 0 (items.map Json.sorted) record.initial >>= _) = _
    rw [read]
    rfl

/-- An object that gives the items of a list under the names they stand for. -/
theorem readsAs_object_of_perm {entries : List (String × Json)}
    (gives : ∀ entry ∈ layout.names.zip items, layout.gives whole entry.1 entry.2)
    (perm : (entries.filter (·.1 ∈ layout.names)).Perm (layout.names.zip items)) :
    record.decoder.ReadsAs (.object entries) (layout.keeping whole (layout.names.take items.length)) := by
  have names : ((entries.map Prod.fst).filter (· ∈ layout.names)).Perm
      (layout.names.take items.length) := by
    rw [List.filter_map, ← map_fst_zip_eq_take]
    exact perm.map Prod.fst
  have fits : layout.Fits whole entries := by
    constructor
    · exact names.nodup_iff.mpr (describes.distinct.sublist (List.take_sublist _ _))
    · exact fun entry mem known =>
        gives entry (perm.mem_iff.mp (List.mem_filter.mpr ⟨mem, decide_eq_true known⟩))
  have same : layout.keeping whole (entries.map Prod.fst) =
      layout.keeping whole (layout.names.take items.length) :=
    describes.congr whole fun name known => by
      rw [← names.mem_iff, List.mem_filter, and_iff_left (decide_eq_true known)]
  exact same ▸ (describes.takes_object fits).readsAs

end Lists

theorem takes_of_writes {value : σ} {json : Json} (writes : layout.Writes value json) :
    record.decoder.Takes json value := by
  cases writes with
  | object fits => exact describes.takes_object fits
  | list short gives => exact describes.takes_array short gives

theorem readBy : layout.ReadBy record.decoder where
  object fits := (describes.takes_object fits).readsAs
  list short gives :=
    ⟨(describes.takes_array short gives).readsAs, fun _ => describes.readsAs_object_of_perm gives⟩

end Describes
end Layout
end ResilientHttp.Json
