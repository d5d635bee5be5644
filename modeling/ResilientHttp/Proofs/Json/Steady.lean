import ResilientHttp.Proofs.Json.Scalar

/-!
What reading does to a cursor. A reader is `Steady` if the room for nesting neither changes what it gives
nor is changed by it, and if it never goes back.

* `Steady.bind` — steps that are taken one after the other; from it the readers of punctuation, strings
  and numbers, each by the cases of its definition.
* `Steady.stringOctets_go` — the loop over a string, by recursion on the octets that are left.
* `Steady.of_ok` — what is known of a step that succeeded.
-/

namespace ResilientHttp.Json

namespace Cursor

/-- The cursor with other room for nesting. -/
def withDepth (cursor : Cursor) (depth : Nat) : Cursor := { cursor with depth }

section Depth

variable (cursor : Cursor) (depth count : Nat)

@[simp] theorem withDepth_rest : (cursor.withDepth depth).rest = cursor.rest := rfl

@[simp] theorem withDepth_depth : (cursor.withDepth depth).depth = depth := rfl

@[simp] theorem withDepth_self : cursor.withDepth cursor.depth = cursor := rfl

@[simp] theorem withDepth_withDepth (other : Nat) :
    (cursor.withDepth depth).withDepth other = cursor.withDepth other := rfl

@[simp] theorem withDepth_position : (cursor.withDepth depth).position = cursor.position := rfl

@[simp] theorem skip_withDepth :
    (cursor.withDepth depth).skip count = (cursor.skip count).withDepth depth := rfl

@[simp] theorem advance_withDepth :
    (cursor.withDepth depth).advance = cursor.advance.withDepth depth := by
  unfold advance
  rw [withDepth_rest]
  split <;> rfl

@[simp] theorem nextPosition_withDepth :
    (cursor.withDepth depth).nextPosition = cursor.nextPosition := by
  rw [nextPosition, advance_withDepth, withDepth_position, nextPosition]

theorem left_skip_le : (cursor.skip count).left ≤ cursor.left := Nat.sub_le _ _

theorem left_advance_le : cursor.advance.left ≤ cursor.left := by
  unfold advance
  split
  · exact Nat.le_refl _
  · exact left_skip_le cursor 1
  · exact left_skip_le cursor 1

end Depth

/-- The cursor behind as many octets as a list has. -/
theorem foldl_advance (blanks : Octets) (cursor : Cursor) :
    (∀ depth, blanks.foldl (fun cursor _ => cursor.advance) (cursor.withDepth depth) =
      (blanks.foldl (fun cursor _ => cursor.advance) cursor).withDepth depth) ∧
    (blanks.foldl (fun cursor _ => cursor.advance) cursor).left ≤ cursor.left ∧
    (∀ later, cursor.rest = blanks ++ later →
      (blanks.foldl (fun cursor _ => cursor.advance) cursor).rest = later) := by
  induction blanks generalizing cursor with
  | nil => exact ⟨fun _ => rfl, Nat.le_refl _, fun _ rest => rest⟩
  | cons blank blanks ih =>
      obtain ⟨level, onward, reached⟩ := ih cursor.advance
      refine ⟨fun depth => ?_, Nat.le_trans onward (left_advance_le cursor), fun later rest => ?_⟩
      · rw [List.foldl_cons, advance_withDepth, level, List.foldl_cons]
      · exact reached later (rest_advance rest)

section Blanks

variable (cursor : Cursor)

/-- An octet that is taken leaves the room for nesting as it was, -/
@[simp] theorem depth_advance : cursor.advance.depth = cursor.depth := by
  have same := cursor.advance_withDepth cursor.depth
  rw [withDepth_self] at same
  rw [same, withDepth_depth]

@[simp] theorem skipBlanks_withDepth (depth : Nat) :
    (cursor.withDepth depth).skipBlanks = cursor.skipBlanks.withDepth depth :=
  (foldl_advance _ cursor).1 depth

/-- and so do blanks. -/
@[simp] theorem depth_skipBlanks : cursor.skipBlanks.depth = cursor.depth := by
  have same := cursor.skipBlanks_withDepth cursor.depth
  rw [withDepth_self] at same
  rw [same, withDepth_depth]

theorem left_skipBlanks_le : cursor.skipBlanks.left ≤ cursor.left :=
  (foldl_advance _ cursor).2.1

theorem rest_skipBlanks : cursor.skipBlanks.rest = cursor.rest.dropWhile isBlank :=
  (foldl_advance _ cursor).2.2 _ List.takeWhile_append_dropWhile.symm

/-- Behind blanks there are none. -/
@[simp] theorem skipBlanks_skipBlanks : cursor.skipBlanks.skipBlanks = cursor.skipBlanks := by
  cases rest : cursor.skipBlanks.rest with
  | nil => exact skipBlanks_of_nil rest
  | cons octet later =>
      have notBlank := List.head?_dropWhile_not isBlank cursor.rest
      rw [← rest_skipBlanks, rest] at notBlank
      exact skipBlanks_of_not_blank rest notBlank

end Blanks
end Cursor

namespace Reader

section Strings

variable {cursor : Cursor} {octet : UInt8} {later : Octets}

theorem stringOctets_go_nil {read : Octets} (nothing : cursor.rest = []) :
    stringOctets.go read cursor = fail .endOfString cursor := by
  rw [stringOctets.go]
  split
  · rfl
  · simp_all

/-- One octet of a string, or one escape. -/
theorem stringOctets_go_cons {read : Octets} (next : cursor.rest = octet :: later) :
    stringOctets.go read cursor =
      if octet = 0x22 then (.ok read.reverse, cursor.advance)
      else if octet = 0x5C then
        match escape cursor.advance with
        | (.error error, behind) => (.error error, behind)
        | (.ok resolved, behind) =>
          if behind.left < cursor.left then stringOctets.go (resolved.reverse ++ read) behind
          else fail .invalidEscape behind
      else if octet < 0x20 then fail .controlCharacter cursor.advance
      else stringOctets.go (octet :: read) cursor.advance := by
  rw [stringOctets.go]
  split
  · simp_all
  · rename_i same
    obtain ⟨rfl, -⟩ := List.cons.inj (same.symm.trans next)
    rfl

end Strings

/-- What a reader gives depends on the room for nesting as little as the room does on it, and what was
read is not read again. -/
structure Steady (reader : Reader α) : Prop where
  level : ∀ cursor depth, reader (cursor.withDepth depth) =
    ((reader cursor).1, (reader cursor).2.withDepth depth)
  onward : ∀ cursor, (reader cursor).2.left ≤ cursor.left

namespace Steady

variable {reader : Reader α} {next : α → Reader β} {cursor behind : Cursor} {value : α}

/-- A step that succeeds does so with any room for nesting, and leaves as much. -/
theorem of_ok (steady : Steady reader) (ran : reader cursor = (.ok value, behind)) (depth : Nat) :
    reader (cursor.withDepth depth) = (.ok value, behind.withDepth depth) := by
  rw [steady.level, ran]

theorem left_le (steady : Steady reader) (ran : reader cursor = (.ok value, behind)) :
    behind.left ≤ cursor.left := by
  have onward := steady.onward cursor
  rwa [ran] at onward

theorem depth_eq (steady : Steady reader) (ran : reader cursor = (.ok value, behind)) :
    behind.depth = cursor.depth := by
  have same := steady.of_ok ran cursor.depth
  rw [Cursor.withDepth_self, ran] at same
  exact congrArg (fun outcome => outcome.2.depth) same

theorem pure (value : α) : Steady (Reader.pure value) := ⟨fun _ _ => rfl, fun _ => Nat.le_refl _⟩

theorem bind (first : Steady reader) (second : ∀ value, Steady (next value)) :
    Steady (reader >>= next) := by
  constructor
  · intro cursor depth
    change Reader.bind reader next _ = (_, (Reader.bind reader next cursor).2.withDepth depth)
    rw [Reader.bind, first.level]
    change _ = ((Reader.bind reader next cursor).1, _)
    rw [Reader.bind]
    rcases reader cursor with ⟨_ | value, after⟩
    · rfl
    · exact (second value).level after depth
  · intro cursor
    have onward := first.onward cursor
    change (Reader.bind reader next cursor).2.left ≤ _
    rw [Reader.bind]
    rcases ran : reader cursor with ⟨_ | value, after⟩
    all_goals rw [ran] at onward
    · exact onward
    · exact Nat.le_trans ((second value).onward after) onward

theorem fail (cause : Cause) : Steady (Reader.fail cause : Reader α) :=
  ⟨fun _ _ => rfl, fun _ => Nat.le_refl _⟩

theorem failNext (cause : Cause) : Steady (Reader.failNext cause : Reader α) := by
  refine ⟨fun cursor depth => ?_, fun _ => Nat.le_refl _⟩
  rw [Reader.failNext, Cursor.nextPosition_withDepth]
  rfl

theorem peek : Steady Reader.peek := ⟨fun _ _ => rfl, fun _ => Nat.le_refl _⟩

theorem skip : Steady Reader.skip := by
  refine ⟨fun cursor depth => ?_, Cursor.left_advance_le⟩
  rw [Reader.skip, Cursor.advance_withDepth]
  rfl

theorem peekBlank : Steady Reader.peekBlank := by
  refine ⟨fun cursor depth => ?_, Cursor.left_skipBlanks_le⟩
  simp only [Reader.peekBlank, Cursor.skipBlanks_withDepth, Cursor.withDepth_rest]

theorem word (octets : Octets) : Steady (Reader.word octets) := by
  induction octets with
  | nil => exact Steady.pure ()
  | cons expected later ih =>
      refine ⟨fun cursor depth => ?_, fun cursor => ?_⟩
      · unfold Reader.word
        rw [Cursor.withDepth_rest]
        split
        · exact (Steady.fail (α := Unit) .endOfValue).level cursor depth
        · rw [Cursor.advance_withDepth]
          split
          · exact ih.level cursor.advance depth
          · exact (Steady.fail (α := Unit) .expectedWord).level cursor.advance depth
      · unfold Reader.word
        split
        · exact Nat.le_refl _
        · have onward := Cursor.left_advance_le cursor
          split
          · exact Nat.le_trans (ih.onward cursor.advance) onward
          · exact onward

/-- An octet that may be there or not. -/
theorem optional {present : Prop} [Decidable present] {later : Unit → Reader β}
    (steady : ∀ taken, Steady (later taken)) :
    Steady (if present then Reader.skip >>= later else later ()) := by
  split
  · exact bind skip steady
  · exact steady ()

/-! ### Punctuation -/

theorem hasItem (first : Bool) : Steady (Reader.hasItem first) := by
  refine bind peekBlank fun octet => ?_
  split
  · exact failNext _
  · split
    · exact pure _
    · split
      · refine bind skip fun _ => bind peekBlank fun octet => ?_
        split
        · exact failNext _
        · exact failNext _
        · exact pure _
      · split
        · exact pure _
        · exact failNext _

theorem hasKey (first : Bool) : Steady (Reader.hasKey first) := by
  refine bind peekBlank fun octet => ?_
  split
  · exact failNext _
  · split
    · exact pure _
    · split
      · refine bind skip fun _ => bind peekBlank fun octet => ?_
        split
        · exact failNext _
        · exact pure _
        · exact failNext _
        · exact failNext _
      · split
        · exact failNext _
        · split
          · exact pure _
          · exact failNext _

theorem colon : Steady Reader.colon := by
  refine bind peekBlank fun octet => ?_
  split
  · exact skip
  · exact failNext _
  · exact failNext _

theorem endList : Steady Reader.endList := by
  refine bind peekBlank fun octet => ?_
  split
  · exact skip
  · refine bind skip fun _ => bind peekBlank fun octet => ?_
    split
    · exact failNext _
    · exact failNext _
  · exact failNext _
  · exact failNext _

theorem endObject : Steady Reader.endObject := by
  refine bind peekBlank fun octet => ?_
  split
  · exact skip
  · exact failNext _
  · exact failNext _
  · exact failNext _

/-! ### Strings -/

theorem hexEscape : Steady Reader.hexEscape := by
  refine ⟨fun cursor depth => ?_, fun cursor => ?_⟩
  · unfold Reader.hexEscape
    rw [Cursor.withDepth_rest]
    split
    · simp only [Cursor.advance_withDepth]
      split
      · rfl
      · rfl
    · simp only [Cursor.advance_withDepth]
      rfl
  · have first := Cursor.left_advance_le cursor
    have second := Cursor.left_advance_le cursor.advance
    have third := Cursor.left_advance_le cursor.advance.advance
    have fourth := Cursor.left_advance_le cursor.advance.advance.advance
    unfold Reader.hexEscape
    split
    · dsimp only
      split
      · dsimp only
        omega
      · change cursor.advance.advance.advance.advance.left ≤ _
        omega
    · change cursor.advance.advance.advance.left ≤ _
      omega

theorem peekInString : Steady Reader.peekInString := by
  refine bind peek fun octet => ?_
  split
  · exact pure _
  · exact fail _

theorem lowSurrogate (high : Nat) : Steady (Reader.lowSurrogate high) := by
  refine bind peekInString fun mark => bind skip fun _ => ?_
  split
  · exact fail _
  · refine bind peekInString fun mark => bind skip fun _ => ?_
    split
    · exact fail _
    · refine bind hexEscape fun low => ?_
      split
      · exact fail _
      · exact pure _

theorem escape : Steady Reader.escape := by
  refine bind peekInString fun octet => bind skip fun _ => ?_
  split
  case h_9 =>
    refine bind hexEscape fun unit => ?_
    split
    · exact fail _
    · split
      · exact lowSurrogate unit
      · exact pure _
  case h_10 => exact fail _
  all_goals exact pure _

theorem stringOctets_go (read : Octets) (cursor : Cursor) :
    (∀ depth, Reader.stringOctets.go read (cursor.withDepth depth) =
      ((Reader.stringOctets.go read cursor).1,
        (Reader.stringOctets.go read cursor).2.withDepth depth)) ∧
    (Reader.stringOctets.go read cursor).2.left ≤ cursor.left := by
  fun_induction Reader.stringOctets.go read cursor with
  | case1 read cursor nothing =>
      refine ⟨fun depth => ?_, Nat.le_refl _⟩
      have nothing : (cursor.withDepth depth).rest = [] := nothing
      rw [stringOctets_go_nil nothing]
      rfl
  | case2 read cursor later next =>
      refine ⟨fun depth => ?_, Cursor.left_advance_le cursor⟩
      have next : (cursor.withDepth depth).rest = _ := next
      rw [stringOctets_go_cons next, if_pos rfl, Cursor.advance_withDepth]
  | case3 read cursor later error behind ran next =>
      have onward := escape.onward cursor.advance
      rw [ran] at onward
      refine ⟨fun depth => ?_, Nat.le_trans onward (Cursor.left_advance_le cursor)⟩
      have next : (cursor.withDepth depth).rest = _ := next
      rw [stringOctets_go_cons next, if_neg (by decide), if_pos rfl, Cursor.advance_withDepth,
        escape.level, ran]
  | case4 read cursor later resolved behind ran fewer next _ ih =>
      refine ⟨fun depth => ?_, Nat.le_trans ih.2 (Nat.le_of_lt fewer)⟩
      have next : (cursor.withDepth depth).rest = _ := next
      rw [stringOctets_go_cons next, if_neg (by decide), if_pos rfl, Cursor.advance_withDepth,
        escape.of_ok ran]
      exact (if_pos fewer).trans (ih.1 depth)
  | case5 read cursor later resolved behind ran notFewer next =>
      have onward := escape.left_le ran
      refine ⟨fun depth => ?_, Nat.le_trans onward (Cursor.left_advance_le cursor)⟩
      have next : (cursor.withDepth depth).rest = _ := next
      rw [stringOctets_go_cons next, if_neg (by decide), if_pos rfl, Cursor.advance_withDepth,
        escape.of_ok ran]
      exact if_neg notFewer
  | case6 read cursor octet later next notMark notEscape control =>
      refine ⟨fun depth => ?_, Cursor.left_advance_le cursor⟩
      have next : (cursor.withDepth depth).rest = _ := next
      rw [stringOctets_go_cons next, if_neg notMark, if_neg notEscape, if_pos control,
        Cursor.advance_withDepth]
      rfl
  | case7 read cursor octet later next notMark notEscape notControl ih =>
      refine ⟨fun depth => ?_, Nat.le_trans ih.2 (Cursor.left_advance_le cursor)⟩
      have next : (cursor.withDepth depth).rest = _ := next
      rw [stringOctets_go_cons next, if_neg notMark, if_neg notEscape, if_neg notControl,
        Cursor.advance_withDepth, ih.1]

theorem stringOctets : Steady Reader.stringOctets :=
  ⟨fun cursor => (stringOctets_go [] cursor).1, fun cursor => (stringOctets_go [] cursor).2⟩

theorem stringBody : Steady Reader.stringBody := by
  refine ⟨fun cursor depth => ?_, fun cursor => ?_⟩
  · unfold Reader.stringBody
    rw [stringOctets.level]
    rcases Reader.stringOctets cursor with ⟨_ | octets, behind⟩
    · rfl
    · dsimp only
      cases Utf8.decode? octets with
      | none => rfl
      | some text => rfl
  · have onward := stringOctets.onward cursor
    unfold Reader.stringBody
    split
    · rename_i ran
      rwa [ran] at onward
    · rename_i ran
      rw [ran] at onward
      split
      · exact onward
      · exact onward

theorem quotedString : Steady Reader.quotedString := bind skip fun _ => stringBody

/-! ### Numbers -/

theorem digits : Steady Reader.digits :=
  ⟨fun _ _ => rfl, fun cursor => Cursor.left_skip_le cursor _⟩

theorem scaled (negative : Bool) (significand : Nat) (power : Int) :
    Steady (Reader.scaled negative significand power) := by
  unfold Reader.scaled
  split
  · exact pure _
  · exact fail _

/-- The refusal of an exponent that has grown too large goes back, but not to where its digits begin. -/
theorem exponentDigits (negative : Bool) (significand : Nat) (power : Int) (raises : Prop)
    [Decidable raises] : Steady (do
      let before : Cursor ← fun cursor => (.ok cursor, cursor)
      let read ← Reader.digits
      match gatherExponent 0 read with
      | (value, none) =>
        Reader.scaled negative significand (if raises then power + value else power - value)
      | (_, some rest) =>
        if significand ≠ 0 ∧ raises then
          fun _ => Reader.fail .numberOutOfRange (before.skip (read.length - rest.length))
        else Reader.scaled negative 0 0) := by
  constructor
  · intro cursor depth
    simp only [Bind.bind, Reader.bind, Reader.digits, Cursor.withDepth_rest, Cursor.skip_withDepth]
    rcases gatherExponent 0 (cursor.rest.takeWhile isDigit) with ⟨value, _ | rest⟩
    · exact (scaled _ _ _).level _ depth
    · cases (instDecidableAnd : Decidable (significand ≠ 0 ∧ raises)) with
      | isTrue => rfl
      | isFalse => exact (scaled negative 0 0).level (cursor.skip _) depth
  · intro cursor
    have onward := Cursor.left_skip_le cursor
    simp only [Bind.bind, Reader.bind, Reader.digits]
    rcases gatherExponent 0 (cursor.rest.takeWhile isDigit) with ⟨value, _ | rest⟩
    · exact Nat.le_trans ((scaled _ _ _).onward _) (onward _)
    · cases (instDecidableAnd : Decidable (significand ≠ 0 ∧ raises)) with
      | isTrue => exact onward _
      | isFalse => exact Nat.le_trans ((scaled negative 0 0).onward (cursor.skip _)) (onward _)

theorem exponent (negative : Bool) (significand : Nat) (power : Int) :
    Steady (Reader.exponent negative significand power) := by
  refine bind skip fun _ => bind peek fun sign => optional fun _ => bind peek fun octet => ?_
  split
  · exact fail _
  · split
    · exact exponentDigits negative significand power _
    · exact bind skip fun _ => fail _

theorem afterDigits (negative : Bool) (significand : Nat) (power : Int) :
    Steady (Reader.afterDigits negative significand power) := by
  refine bind peek fun octet => ?_
  split
  · exact exponent negative significand power
  · exact exponent negative significand power
  · exact scaled negative significand power

theorem fraction (negative : Bool) (significand : Nat) (power : Int) :
    Steady (Reader.fraction negative significand power) := by
  refine bind skip fun _ => bind digits fun read => ?_
  split
  · refine bind peek fun octet => ?_
    split
    · exact failNext _
    · exact failNext _
  · exact afterDigits _ _ _

theorem unsigned (negative : Bool) : Steady (Reader.unsigned negative) := by
  refine bind peek fun octet => ?_
  split
  · exact fail _
  · split
    · refine bind skip fun _ => bind peek fun next => ?_
      split
      · split
        · exact failNext _
        · split
          · exact fraction negative 0 0
          · split
            · exact exponent negative 0 0
            · exact pure _
      · exact pure _
    · split
      · refine bind digits fun read => ?_
        dsimp only
        refine bind peek fun next => ?_
        split
        · exact fraction _ _ _
        · exact exponent _ _ _
        · exact exponent _ _ _
        · split
          · exact pure _
          · exact scaled _ _ _
      · exact bind skip fun _ => fail _

theorem number : Steady Reader.number := by
  refine bind peek fun octet => ?_
  split
  · exact bind skip fun _ => unsigned true
  · exact unsigned false

end Steady
end Reader
end ResilientHttp.Json
