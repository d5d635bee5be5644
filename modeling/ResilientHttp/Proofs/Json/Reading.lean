import ResilientHttp.Json.Cursor
import ResilientHttp.Json.Scalar

/-!
What a reader makes of octets in front of others. `Reads follows reader written value` says that
`written`, in front of anything that `follows` allows, is read as `value`, and that the reader stops
right behind it.

* `Reads.bind`, `Reads.closedBy` — stretches that are read one after the other.
* `reads_items_go`, `reads_entries_go` — one turn of the loops over lists and objects is one item with
  the comma in front of it. From these, by the first turn, `reads_items` and `reads_entries`.
* `run_of_reads` — a whole text that is read.
-/

namespace ResilientHttp.Json

namespace Cursor

variable {cursor : Cursor} {octet : UInt8} {later : Octets}

theorem rest_advance (next : cursor.rest = octet :: later) : cursor.advance.rest = later := by
  unfold advance
  split <;> simp_all [skip]

theorem rest_skip_length {read : Octets} (next : cursor.rest = read ++ later) :
    (cursor.skip read.length).rest = later := by
  simp [skip, next]

theorem skipBlanks_of_nil (none : cursor.rest = []) : cursor.skipBlanks = cursor := by
  rw [skipBlanks, none]
  rfl

theorem skipBlanks_of_not_blank (next : cursor.rest = octet :: later)
    (notBlank : isBlank octet = false) : cursor.skipBlanks = cursor := by
  rw [skipBlanks, next, List.takeWhile_cons_of_neg (by simp [notBlank])]
  rfl

/-- Whoever has fewer octets left has fewer left by the count. -/
theorem left_lt_of_rest {behind : Cursor} {written : Octets} (rest : cursor.rest = written ++ later)
    (some : written ≠ []) (reached : behind.rest = later) : behind.left < cursor.left := by
  have positive := List.length_pos_iff.mpr some
  rw [behind.left_eq, cursor.left_eq, rest, reached, List.length_append]
  omega

end Cursor

namespace Reader

/-- Anything may follow. -/
def Anything (_ : Octets) : Prop := True

/-- What may follow a value: nothing, or an octet that no number goes on with. -/
def Ends (tail : Octets) : Prop :=
  ∀ octet ∈ tail.head?, isDigit octet = false ∧ octet ≠ 0x2E ∧ octet ≠ 0x65 ∧ octet ≠ 0x45

/-- An octet follows. -/
def Begins (octet : UInt8) (tail : Octets) : Prop := tail.head? = some octet

/-- An item of a list follows: neither blanks nor the closing bracket. -/
def BeginsItem (tail : Octets) : Prop :=
  ∃ octet ∈ tail.head?, Cursor.isBlank octet = false ∧ octet ≠ 0x5D

/-- A stretch of octets is read as a value, in front of what may follow it. -/
def Reads (follows : Octets → Prop) (reader : Reader α) (written : Octets) (value : α) : Prop :=
  ∀ ⦃cursor : Cursor⦄ ⦃tail : Octets⦄, follows tail → cursor.rest = written ++ tail →
    ∃ behind : Cursor, reader cursor = (.ok value, behind) ∧ behind.rest = tail

section Sequences

variable {follows before : Octets → Prop} {reader : Reader α} {next : α → Reader β}
  {closing : Reader Unit} {written others : Octets} {value : α} {result : β}

theorem bind_of_ok {cursor after : Cursor} (first : reader cursor = (.ok value, after)) :
    (reader >>= next) cursor = next value after := by
  change Reader.bind reader next cursor = _
  rw [Reader.bind, first]

theorem Reads.mono (read : Reads before reader written value)
    (passes : ∀ tail, follows tail → before tail) : Reads follows reader written value :=
  fun _ tail allowed rest => read (passes tail allowed) rest

theorem Reads.bind (first : Reads before reader written value)
    (second : Reads follows (next value) others result)
    (passes : ∀ tail, follows tail → before (others ++ tail)) :
    Reads follows (reader >>= next) (written ++ others) result := by
  intro cursor tail allowed rest
  rw [List.append_assoc] at rest
  obtain ⟨after, ran, reached⟩ := first (passes tail allowed) rest
  rw [bind_of_ok ran]
  exact second allowed reached

theorem Reads.closedBy (inside : Reads before reader written value)
    (closed : Reads follows closing others ()) (passes : ∀ tail, follows tail → before (others ++ tail)) :
    Reads follows (closedBy reader closing) (written ++ others) value := by
  intro cursor tail allowed rest
  rw [List.append_assoc] at rest
  obtain ⟨after, ran, reached⟩ := inside (passes tail allowed) rest
  obtain ⟨behind, ended, stopped⟩ := closed allowed reached
  refine ⟨behind, ?_, stopped⟩
  simp only [Reader.closedBy, ran, ended]

theorem Reads.pure : Reads follows (pure value : Reader α) [] value :=
  fun cursor _ _ rest => ⟨cursor, rfl, rest⟩

theorem Reads.map {f : α → β} (read : Reads follows reader written value) :
    Reads follows (reader >>= fun value => Reader.pure (f value)) written (f value) := by
  have both : Reads follows (reader >>= fun value => Reader.pure (f value)) (written ++ []) (f value) :=
    read.bind Reads.pure fun _ allowed => allowed
  rwa [List.append_nil] at both

/-- To look at the next octet behind blanks changes nothing where there are none. -/
theorem Reads.peekBlank {next : Option UInt8 → Reader β} {octet : UInt8} {later : Octets}
    (notBlank : Cursor.isBlank octet = false)
    (read : Reads follows (next (some octet)) (octet :: later) result) :
    Reads follows (Reader.peekBlank >>= next) (octet :: later) result := by
  intro cursor tail allowed rest
  have looked : Reader.peekBlank cursor = (.ok (some octet), cursor) := by
    rw [Reader.peekBlank, Cursor.skipBlanks_of_not_blank rest notBlank, rest]
    rfl
  rw [bind_of_ok looked]
  exact read allowed rest

/-- The same where the next octet is part of what follows. -/
theorem Reads.peekBlank_follows {next : Option UInt8 → Reader β}
    (read : ∀ tail, follows tail → ∃ octet ∈ tail.head?, Cursor.isBlank octet = false ∧
      Reads (· = tail) (next (some octet)) [] result) :
    Reads follows (Reader.peekBlank >>= next) [] result := by
  intro cursor tail allowed rest
  obtain ⟨octet, first, notBlank, read⟩ := read tail allowed
  obtain ⟨later, rfl⟩ := List.head?_eq_some_iff.mp first
  have looked : Reader.peekBlank cursor = (.ok (some octet), cursor) := by
    rw [Reader.peekBlank, Cursor.skipBlanks_of_not_blank rest notBlank, rest]
    rfl
  rw [bind_of_ok looked]
  exact read rfl rest

end Sequences

/-! ### Punctuation -/

section Punctuation

variable {follows : Octets → Prop}

theorem reads_skip (octet : UInt8) : Reads follows skip [octet] () :=
  fun cursor _ _ rest => ⟨cursor.advance, rfl, Cursor.rest_advance rest⟩

theorem Reads.skip {next : Unit → Reader β} {octet : UInt8} {later : Octets} {result : β}
    (read : Reads follows (next ()) later result) :
    Reads follows (Reader.skip >>= next) (octet :: later) result := by
  have taken : Reads Anything Reader.skip [octet] () := reads_skip octet
  exact taken.bind read fun _ _ => trivial

theorem reads_word (octets : Octets) : Reads follows (word octets) octets () := by
  induction octets with
  | nil => exact Reads.pure
  | cons octet later ih =>
      intro cursor tail allowed rest
      obtain ⟨behind, ran, reached⟩ := ih allowed (Cursor.rest_advance rest)
      refine ⟨behind, ?_, reached⟩
      simp only [word, rest, List.cons_append, if_true, ran]

theorem reads_endList : Reads follows endList [0x5D] () :=
  Reads.peekBlank rfl (reads_skip _)

theorem reads_endObject : Reads follows endObject [0x7D] () :=
  Reads.peekBlank rfl (reads_skip _)

theorem reads_colon : Reads follows colon [0x3A] () :=
  Reads.peekBlank rfl (reads_skip _)

theorem Reads.colon {next : Unit → Reader β} {later : Octets} {result : β}
    (read : Reads follows (next ()) later result) :
    Reads follows (Reader.colon >>= next) (0x3A :: later) result := by
  have taken : Reads Anything Reader.colon [0x3A] () := reads_colon
  exact taken.bind read fun _ _ => trivial

/-- A list goes on where an item follows, which is behind a comma if it is not the first. -/
theorem reads_hasItem_true (first : Bool) :
    Reads BeginsItem (hasItem first) (if first then [] else [0x2C]) true := by
  cases first with
  | false =>
      refine Reads.peekBlank rfl ?_
      refine Reads.skip ?_
      refine Reads.peekBlank_follows fun tail begins => ?_
      obtain ⟨octet, next, notBlank, notClosing⟩ := begins
      refine ⟨octet, next, notBlank, ?_⟩
      split
      · contradiction
      · rename_i closing
        cases closing
        exact absurd rfl notClosing
      · exact Reads.pure
  | true =>
      refine Reads.peekBlank_follows fun tail begins => ?_
      obtain ⟨octet, next, notBlank, notClosing⟩ := begins
      refine ⟨octet, next, notBlank, ?_⟩
      dsimp only
      rw [if_neg notClosing, if_neg (by simp), if_pos rfl]
      exact Reads.pure

theorem reads_hasItem_false (first : Bool) : Reads (Begins 0x5D) (hasItem first) [] false :=
  Reads.peekBlank_follows fun _ begins => ⟨0x5D, begins, rfl, Reads.pure⟩

/-- An object goes on where a key follows, which is behind a comma if it is not the first. -/
theorem reads_hasKey_true (first : Bool) :
    Reads (Begins 0x22) (hasKey first) (if first then [] else [0x2C]) true := by
  cases first with
  | false =>
      refine Reads.peekBlank rfl ?_
      refine Reads.skip ?_
      exact Reads.peekBlank_follows fun _ begins => ⟨0x22, begins, rfl, Reads.pure⟩
  | true => exact Reads.peekBlank_follows fun _ begins => ⟨0x22, begins, rfl, Reads.pure⟩

theorem reads_hasKey_false (first : Bool) : Reads (Begins 0x7D) (hasKey first) [] false :=
  Reads.peekBlank_follows fun _ begins => ⟨0x7D, begins, rfl, Reads.pure⟩

end Punctuation

/-! ### Lists and objects -/

section Loops

variable {item : Reader α} {entry : σ → Reader σ} {cursor : Cursor}
  {stretch tail : Octets}

theorem BeginsItem.append (begins : BeginsItem stretch) (tail : Octets) :
    BeginsItem (stretch ++ tail) := by
  obtain ⟨octet, next, others⟩ := begins
  exact ⟨octet, by simp [Option.mem_def.mp next], others⟩

theorem Begins.append {octet : UInt8} (begins : Begins octet stretch) (tail : Octets) :
    Begins octet (stretch ++ tail) := by
  simp [Begins, Option.mem_def.mp begins]

/-- One turn of a list: an item, behind a comma if it is not the first. -/
theorem items_go_turn (first : Bool) (read : List α) {value : α} (begins : BeginsItem stretch)
    (reads : Reads Ends item stretch value) (ends : Ends tail)
    (rest : cursor.rest = (if first then [] else [0x2C]) ++ (stretch ++ tail)) :
    ∃ behind : Cursor, items.go item first read cursor = items.go item false (value :: read) behind ∧
      behind.rest = tail := by
  obtain ⟨after, goesOn, here⟩ := reads_hasItem_true first (begins.append tail) rest
  obtain ⟨behind, ran, reached⟩ := reads ends here
  have fewer : behind.left < cursor.left := by
    refine Cursor.left_lt_of_rest (rest.trans (List.append_assoc ..).symm) ?_ reached
    obtain ⟨octet, next, -⟩ := begins
    rintro nothing
    simp_all
  refine ⟨behind, ?_, reached⟩
  rw [items.go, goesOn]
  dsimp only
  rw [ran]
  dsimp only
  rw [if_pos fewer]

/-- One turn of an object: an entry, behind a comma if it is not the first. -/
theorem entries_go_turn (first : Bool) {state next : σ} (begins : Begins 0x22 stretch)
    (reads : Reads Ends (entry state) stretch next) (ends : Ends tail)
    (rest : cursor.rest = (if first then [] else [0x2C]) ++ (stretch ++ tail)) :
    ∃ behind : Cursor, entries.go entry first state cursor = entries.go entry false next behind ∧
      behind.rest = tail := by
  obtain ⟨after, goesOn, here⟩ := reads_hasKey_true first (begins.append tail) rest
  obtain ⟨behind, ran, reached⟩ := reads ends here
  have fewer : behind.left < cursor.left := by
    refine Cursor.left_lt_of_rest (rest.trans (List.append_assoc ..).symm) ?_ reached
    rintro nothing
    simp_all [Begins]
  refine ⟨behind, ?_, reached⟩
  rw [entries.go, goesOn]
  dsimp only
  rw [ran]
  dsimp only
  rw [if_pos fewer]

variable {ι : Type} {given : List ι} {written : ι → Octets}

/-- Stretches with commas between them. -/
def separated (written : ι → Octets) : List ι → Octets
  | [] => []
  | one :: others => written one ++ others.flatMap fun other => 0x2C :: written other

theorem separated_cons_cons (one other : ι) (others : List ι) :
    separated written (one :: other :: others) =
      written one ++ 0x2C :: separated written (other :: others) := by
  rw [separated, List.flatMap_cons, separated, List.cons_append]

theorem Begins.ends {octet : UInt8} (begins : Begins octet tail)
    (h : isDigit octet = false ∧ octet ≠ 0x2E ∧ octet ≠ 0x65 ∧ octet ≠ 0x45) : Ends tail := by
  intro next mem
  rw [begins] at mem
  cases mem
  exact h

/-- What stands behind an item ends it: a comma, or what stands behind the last one. -/
theorem ends_flatMap (others : List ι) (ends : Ends tail) :
    Ends (others.flatMap (fun other => 0x2C :: written other) ++ tail) := by
  cases others with
  | nil => exact ends
  | cons other later =>
      have comma : Begins 0x2C (0x2C :: (written other ++
          later.flatMap (fun other => 0x2C :: written other) ++ tail)) := rfl
      exact comma.ends (by decide)

theorem reads_items_go {value : ι → α} (read : List α)
    (begins : ∀ one ∈ given, BeginsItem (written one))
    (reads : ∀ one ∈ given, Reads Ends item (written one) (value one)) :
    Reads (Begins 0x5D) (items.go item false read)
      (given.flatMap fun one => 0x2C :: written one) (read.reverse ++ given.map value) := by
  intro cursor tail closes rest
  induction given generalizing cursor read with
  | nil =>
      obtain ⟨behind, stops, reached⟩ := reads_hasItem_false false closes rest
      refine ⟨behind, ?_, reached⟩
      rw [items.go, stops, List.map_nil, List.append_nil]
  | cons one others ih =>
      obtain ⟨beginsOne, begins⟩ := List.forall_mem_cons.mp begins
      obtain ⟨readsOne, reads⟩ := List.forall_mem_cons.mp reads
      rw [List.flatMap_cons, List.append_assoc] at rest
      obtain ⟨behind, turned, reached⟩ := items_go_turn false read beginsOne readsOne
        (ends_flatMap others (closes.ends (by decide))) rest
      obtain ⟨after, ran, stopped⟩ := ih (value one :: read) begins reads reached
      refine ⟨after, ?_, stopped⟩
      rw [turned, ran, List.reverse_cons, List.append_assoc]
      rfl

/-- A list of stretches between commas is read one after the other. -/
theorem reads_items {value : ι → α} (begins : ∀ one ∈ given, BeginsItem (written one))
    (reads : ∀ one ∈ given, Reads Ends item (written one) (value one)) :
    Reads (Begins 0x5D) (items item) (separated written given) (given.map value) := by
  intro cursor tail closes rest
  cases given with
  | nil =>
      obtain ⟨behind, stops, reached⟩ := reads_hasItem_false true closes rest
      refine ⟨behind, ?_, reached⟩
      rw [items, items.go, stops]
      rfl
  | cons one others =>
      obtain ⟨beginsOne, begins⟩ := List.forall_mem_cons.mp begins
      obtain ⟨readsOne, reads⟩ := List.forall_mem_cons.mp reads
      rw [separated, List.append_assoc] at rest
      obtain ⟨behind, turned, reached⟩ := items_go_turn true [] beginsOne readsOne
        (ends_flatMap others (closes.ends (by decide))) rest
      obtain ⟨after, ran, stopped⟩ := reads_items_go [value one] begins reads closes reached
      exact ⟨after, turned.trans ran, stopped⟩

theorem reads_entries_go {next : σ → ι → σ} (state : σ)
    (begins : ∀ one ∈ given, Begins 0x22 (written one))
    (reads : ∀ one ∈ given, ∀ state, Reads Ends (entry state) (written one) (next state one)) :
    Reads (Begins 0x7D) (entries.go entry false state)
      (given.flatMap fun one => 0x2C :: written one) (given.foldl next state) := by
  intro cursor tail closes rest
  induction given generalizing cursor state with
  | nil =>
      obtain ⟨behind, stops, reached⟩ := reads_hasKey_false false closes rest
      refine ⟨behind, ?_, reached⟩
      rw [entries.go, stops]
      rfl
  | cons one others ih =>
      obtain ⟨beginsOne, begins⟩ := List.forall_mem_cons.mp begins
      obtain ⟨readsOne, reads⟩ := List.forall_mem_cons.mp reads
      rw [List.flatMap_cons, List.append_assoc] at rest
      obtain ⟨behind, turned, reached⟩ := entries_go_turn false beginsOne (readsOne state)
        (ends_flatMap others (closes.ends (by decide))) rest
      obtain ⟨after, ran, stopped⟩ := ih (next state one) begins reads reached
      exact ⟨after, turned.trans ran, stopped⟩

/-- The entries of an object between commas are read each into what the ones before it left. -/
theorem reads_entries {next : σ → ι → σ} (state : σ)
    (begins : ∀ one ∈ given, Begins 0x22 (written one))
    (reads : ∀ one ∈ given, ∀ state, Reads Ends (entry state) (written one) (next state one)) :
    Reads (Begins 0x7D) (entries entry state) (separated written given) (given.foldl next state) := by
  intro cursor tail closes rest
  cases given with
  | nil =>
      obtain ⟨behind, stops, reached⟩ := reads_hasKey_false true closes rest
      refine ⟨behind, ?_, reached⟩
      rw [entries, entries.go, stops]
      rfl
  | cons one others =>
      obtain ⟨beginsOne, begins⟩ := List.forall_mem_cons.mp begins
      obtain ⟨readsOne, reads⟩ := List.forall_mem_cons.mp reads
      rw [separated, List.append_assoc] at rest
      obtain ⟨behind, turned, reached⟩ := entries_go_turn true beginsOne (readsOne state)
        (ends_flatMap others (closes.ends (by decide))) rest
      obtain ⟨after, ran, stopped⟩ := reads_entries_go (next state one) begins reads closes reached
      exact ⟨after, turned.trans ran, stopped⟩

end Loops

/-- A whole text that is read as a value. -/
theorem run_of_reads {reader : Reader α} {written : Octets} {value : α}
    (reads : Reads Ends reader written value) : reader.run written = .ok value := by
  obtain ⟨behind, ran, reached⟩ :=
    @reads (Cursor.start written) [] (by simp [Ends]) (List.append_nil _).symm
  have looked : peekBlank behind = (.ok none, behind) := by
    rw [peekBlank, Cursor.skipBlanks_of_nil reached, reached]
    rfl
  rw [run, run.complete, bind_of_ok ran, bind_of_ok looked]
  rfl

end Reader
end ResilientHttp.Json
