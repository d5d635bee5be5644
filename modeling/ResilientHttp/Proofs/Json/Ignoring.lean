import ResilientHttp.Proofs.Json.Spelling

/-!
Values that are passed over. Where a value is spelt, `ignored` comes just as far as a reader of the value,
although it does not recurse: it has a stack of the brackets that are open.

* `Passes` — a reader that gives nothing comes as far as another one does; numbers and strings by steps
  that both take.
* `Closes` — the machine comes from the end of an item to the end of all that is open.
* `Encloses` — what the two kinds of brackets have in common; `Encloses.closes` from the turns of a loop
  that are left, `Encloses.opens` from all of them.
* `Spelt.gives_ignored` — by induction on the levels of nesting, for any stack, in `Spelt.ignored_go`.
-/

namespace ResilientHttp.Json.Reader

/-- What is passed over behind the digits of a fraction. -/
def ignoredMark : Option UInt8 → Reader Unit
  | some 0x65 => ignoredExponent
  | some 0x45 => ignoredExponent
  | _ => Reader.pure ()

/-- A fraction is passed over from its point on. -/
def ignoredFraction : Reader Unit := do
  skip
  match ← digits with
  | [] => failNext .invalidNumber
  | _ => peek >>= ignoredMark

/-- What is passed over behind the digits in front of a point. -/
def ignoredTail : Option UInt8 → Reader Unit
  | some 0x2E => ignoredFraction
  | some 0x65 => ignoredExponent
  | some 0x45 => ignoredExponent
  | _ => Reader.pure ()

section Tails

variable {octet : Option UInt8} (notSmall : octet ≠ some 0x65) (notGreat : octet ≠ some 0x45)

include notSmall notGreat

theorem ignoredMark_of_ne : ignoredMark octet = Reader.pure () := by
  unfold ignoredMark
  split
  · exact absurd rfl notSmall
  · exact absurd rfl notGreat
  · rfl

theorem ignoredTail_of_ne (notPoint : octet ≠ some 0x2E) : ignoredTail octet = Reader.pure () := by
  unfold ignoredTail
  split
  · exact absurd rfl notPoint
  · exact absurd rfl notSmall
  · exact absurd rfl notGreat
  · rfl

end Tails

/-- Where the first reader succeeds at a cursor, the second one comes as far. -/
def Passes (cursor : Cursor) (full : Reader α) (light : Reader Unit) : Prop :=
  ∀ ⦃value behind⦄, full.Gives cursor value behind → light.Gives cursor () behind

namespace Passes

variable {full : Reader α} {light : Reader Unit} {cursor : Cursor}

theorem fail {cause : Cause} : Passes cursor (Reader.fail cause : Reader α) light := nofun

theorem failNext {cause : Cause} : Passes cursor (Reader.failNext cause : Reader α) light := nofun

theorem failAt {cause : Cause} {other : Cursor} :
    Passes cursor (fun _ => Reader.fail cause other : Reader α) light := nofun

theorem pure {value : α} : Passes cursor (Reader.pure value) (Reader.pure ()) := by
  intro _ _ ran
  cases ran
  rfl

/-- Both readers begin with the same step. -/
theorem step {first : Reader β} {next : β → Reader α} {later : β → Reader Unit}
    (passes : ∀ value after, first.Gives cursor value after → Passes after (next value) (later value)) :
    Passes cursor (first >>= next) (first >>= later) := by
  intro result behind ran
  obtain ⟨value, after, began, ran⟩ := gives_bind_iff.mp ran
  exact began.bind (passes value after began ran)

theorem skip {next : Unit → Reader α} {later : Unit → Reader Unit}
    (passes : Passes cursor.advance (next ()) (later ())) :
    Passes cursor (Reader.skip >>= next) (Reader.skip >>= later) := passes

theorem peek {next : Option UInt8 → Reader α} {later : Option UInt8 → Reader Unit}
    (passes : Passes cursor (next cursor.rest.head?) (later cursor.rest.head?)) :
    Passes cursor (Reader.peek >>= next) (Reader.peek >>= later) := passes

/-- The second reader looks at an octet that the first one has seen already. -/
theorem peekAgain {later : Option UInt8 → Reader Unit}
    (passes : Passes cursor full (later cursor.rest.head?)) :
    Passes cursor full (Reader.peek >>= later) := passes

theorem pureThen {later : Unit → Reader Unit} (passes : Passes cursor full (later ())) :
    Passes cursor full (Reader.pure () >>= later) := passes

theorem choice {present : Prop} [Decidable present] {one other : Reader α}
    (first : Passes cursor one light) (second : Passes cursor other light) :
    Passes cursor (if present then one else other) light := by
  split
  · exact first
  · exact second

theorem scaled {negative : Bool} {significand : Nat} {power : Int} :
    Passes cursor (Reader.scaled negative significand power) (Reader.pure ()) := by
  unfold Reader.scaled
  split
  · exact pure
  · exact fail

/-! ### Numbers -/

theorem optional {present : Prop} [Decidable present] {next : Unit → Reader α}
    {later : Unit → Reader Unit} (passes : ∀ cursor, Passes cursor (next ()) (later ())) :
    Passes cursor (if present then Reader.skip >>= next else next ())
      (if present then Reader.skip >>= later else later ()) := by
  split
  · exact skip (passes _)
  · exact passes _

theorem exponent {negative : Bool} {significand : Nat} {power : Int} :
    Passes cursor (Reader.exponent negative significand power) ignoredExponent := by
  refine skip (peek (optional fun cursor => peek ?_))
  cases cursor.rest.head? with
  | none => exact fail
  | some octet =>
      dsimp only
      split
      · intro value behind ran
        obtain ⟨before, _, here, ran⟩ := gives_bind_iff.mp ran
        cases here
        obtain ⟨read, after, taken, ran⟩ := gives_bind_iff.mp ran
        refine taken.bind ?_
        split at ran
        · exact scaled ran
        · exact choice failAt scaled ran
      · exact skip fail

theorem afterDigits {negative : Bool} {significand : Nat} {power : Int} :
    Passes cursor (Reader.afterDigits negative significand power) (Reader.peek >>= ignoredMark) := by
  refine peek ?_
  generalize cursor.rest.head? = octet
  split
  · exact exponent
  · exact exponent
  · rename_i notSmall notGreat
    rw [ignoredMark_of_ne notSmall notGreat]
    exact scaled

theorem fraction {negative : Bool} {significand : Nat} {power : Int} :
    Passes cursor (Reader.fraction negative significand power) ignoredFraction := by
  refine skip (step fun read after _ => ?_)
  cases read with
  | nil =>
      refine fun _ _ ran => ?_
      obtain ⟨octet, _, looked, ran⟩ := gives_bind_iff.mp ran
      split at ran
      · cases ran
      · cases ran
  | cons digit others => exact afterDigits

/-- What stands behind a leading zero. -/
theorem afterZero {negative : Bool} {significand : Nat} {power : Int} {following : UInt8} {read : Number} :
    Passes cursor
      (if following = 0x2E then Reader.fraction negative significand power
      else if following = 0x65 ∨ following = 0x45 then Reader.exponent negative significand power
      else Reader.pure read)
      (ignoredTail (some following)) := by
  by_cases point : following = 0x2E
  · subst point
    exact fraction
  · rw [if_neg point]
    split
    · rename_i mark
      obtain rfl | rfl := mark
      · exact exponent
      · exact exponent
    · rename_i noMark
      rw [not_or] at noMark
      rw [ignoredTail_of_ne (by simp [noMark]) (by simp [noMark]) (by simp [point])]
      exact pure

theorem number_unsigned {negative : Bool} :
    Passes cursor (Reader.unsigned negative) ignoredNumber := by
  refine peek ?_
  cases cursor.rest.head? with
  | none => exact fail
  | some octet =>
      by_cases zero : octet = 0x30
      · subst zero
        refine skip (peek ?_)
        cases next : cursor.advance.rest.head? with
        | none =>
            refine pureThen (peekAgain ?_)
            rw [next]
            exact pure
        | some following =>
            dsimp only
            split
            · exact failNext
            · refine peekAgain ?_
              rw [next]
              exact afterZero
      · dsimp only
        rw [if_neg zero]
        split
        · rename_i digit
          rw [if_neg (by simp [digit])]
          refine step fun read after _ => pureThen (peek ?_)
          generalize after.rest.head? = octet
          change Passes after _ (ignoredTail octet)
          split
          · exact fraction
          · exact exponent
          · exact exponent
          · rename_i notPoint notSmall notGreat
            rw [ignoredTail_of_ne notSmall notGreat notPoint]
            exact choice pure scaled
        · rename_i digit
          rw [if_pos (by simp [digit])]
          exact skip fail

end Passes

/-! ### Strings -/

section Strings

variable {cursor behind : Cursor} {octet : UInt8} {later : Octets}

theorem gives_peekInString_iff : peekInString.Gives cursor octet behind ↔
    cursor.rest.head? = some octet ∧ cursor = behind := by
  refine gives_bind_iff.trans ?_
  constructor
  · rintro ⟨_, _, looked, ran⟩
    cases looked
    split at ran
    · rename_i next
      cases ran
      exact ⟨next, rfl⟩
    · cases ran
  · rintro ⟨next, rfl⟩
    refine ⟨_, cursor, rfl, ?_⟩
    rw [next]
    exact gives_pure

theorem ignoredString_go_cons (next : cursor.rest = octet :: later) :
    ignoredString.go cursor =
      if octet = 0x22 then (.ok (), cursor.advance)
      else if octet = 0x5C then
        match ignoredString.ignoredEscape cursor.advance with
        | (.error error, behind) => (.error error, behind)
        | (.ok (), behind) =>
          if behind.left < cursor.left then ignoredString.go behind
          else fail .invalidEscape behind
      else if octet < 0x20 then fail .controlCharacter cursor
      else ignoredString.go cursor.advance := by
  rw [ignoredString.go]
  split
  · simp_all
  · rename_i same
    obtain ⟨rfl, -⟩ := List.cons.inj (same.symm.trans next)
    rfl

theorem steady_ignoredEscape : Steady ignoredString.ignoredEscape := by
  refine Steady.peekInString.bind fun octet => Steady.skip.bind fun _ => ?_
  split
  · exact Steady.hexEscape.bind fun _ => Steady.pure ()
  · split
    · exact Steady.pure ()
    · exact Steady.fail _

/-- Four digits behind their mark. -/
theorem gives_ignoredEscape_hex {after : Cursor} {unit : Nat} (next : cursor.rest.head? = some 0x75)
    (digits : hexEscape.Gives cursor.advance unit after) :
    ignoredString.ignoredEscape.Gives cursor () after := by
  refine (gives_peekInString_iff.mpr ⟨next, rfl⟩).bind (gives_skip_iff.mpr ?_)
  rw [if_pos rfl]
  exact digits.bind gives_pure

/-- The second half of a surrogate pair is an escape of its own. -/
theorem ignoredEscape_of_lowSurrogate {high : Nat} {resolved : Octets}
    (ran : (lowSurrogate high).Gives cursor resolved behind) :
    ∃ later, cursor.rest = 0x5C :: later ∧ ignoredString.ignoredEscape.Gives cursor.advance () behind := by
  obtain ⟨mark, _, seen, ran⟩ := gives_bind_iff.mp ran
  obtain ⟨nextMark, rfl⟩ := gives_peekInString_iff.mp seen
  have ran := gives_skip_iff.mp ran
  split at ran
  · cases ran
  · rename_i isMark
    obtain ⟨other, _, seen, ran⟩ := gives_bind_iff.mp ran
    obtain ⟨nextOther, rfl⟩ := gives_peekInString_iff.mp seen
    have ran := gives_skip_iff.mp ran
    split at ran
    · cases ran
    · rename_i isOther
      obtain ⟨low, _, digits, ran⟩ := gives_bind_iff.mp ran
      obtain ⟨later, rest⟩ := List.head?_eq_some_iff.mp nextMark
      rw [Decidable.not_not.mp isMark] at rest
      rw [Decidable.not_not.mp isOther] at nextOther
      split at ran
      · cases ran
      · obtain ⟨-, rfl⟩ := gives_pure_iff.mp ran
        exact ⟨later, rest, gives_ignoredEscape_hex nextOther digits⟩

/-- An escape is passed over, in two steps if it is a surrogate pair. -/
theorem ignoredEscape_of_escape {resolved : Octets} (ran : escape.Gives cursor resolved behind) :
    ignoredString.ignoredEscape.Gives cursor () behind ∨
      ∃ between later, ignoredString.ignoredEscape.Gives cursor () between ∧
        between.rest = 0x5C :: later ∧
        ignoredString.ignoredEscape.Gives between.advance () behind := by
  obtain ⟨octet, _, seen, ran⟩ := gives_bind_iff.mp ran
  obtain ⟨next, rfl⟩ := gives_peekInString_iff.mp seen
  have ran := gives_skip_iff.mp ran
  split at ran
  case h_9 =>
    obtain ⟨unit, after, digits, ran⟩ := gives_bind_iff.mp ran
    have first := gives_ignoredEscape_hex next digits
    split at ran
    · cases ran
    · split at ran
      · obtain ⟨later, rest, second⟩ := ignoredEscape_of_lowSurrogate ran
        exact .inr ⟨after, later, first, rest, second⟩
      · cases ran
        exact .inl first
  case h_10 => cases ran
  all_goals
    cases ran
    refine .inl (seen.bind (gives_skip_iff.mpr ?_))
    rw [if_neg (by decide), if_pos (by decide)]
    exact gives_pure

/-- A string is passed over to its closing mark, wherever it is read. -/
theorem ignoredString_go {read octets : Octets}
    (ran : stringOctets.go read cursor = (.ok octets, behind)) :
    ignoredString.go cursor = (.ok (), behind) := by
  fun_induction stringOctets.go read cursor with
  | case1 | case3 | case5 | case6 => cases ran
  | case2 read cursor later next =>
      cases ran
      rw [ignoredString_go_cons next, if_pos rfl]
  | case4 read cursor later resolved after escaped fewer next _ ih =>
      have ended := ih ran
      rw [ignoredString_go_cons next, if_neg (by decide), if_pos rfl]
      obtain one | ⟨between, others, one, rest, other⟩ := ignoredEscape_of_escape escaped
      · rw [one]
        dsimp only
        rw [if_pos fewer, ended]
      · have nearer := Nat.lt_of_le_of_lt (steady_ignoredEscape.left_le one)
          (Cursor.left_advance next)
        have nearest := Nat.lt_of_le_of_lt (steady_ignoredEscape.left_le other)
          (Cursor.left_advance rest)
        rw [one]
        dsimp only
        rw [if_pos nearer, ignoredString_go_cons rest, if_neg (by decide), if_pos rfl, other]
        dsimp only
        rw [if_pos nearest, ended]
  | case7 read cursor octet later next notMark notEscape notControl ih =>
      rw [ignoredString_go_cons next, if_neg notMark, if_neg notEscape, if_neg notControl, ih ran]

theorem Passes.stringBody : Passes cursor stringBody ignoredString := by
  intro text behind ran
  simp only [Gives, Reader.stringBody] at ran
  split at ran
  · cases ran
  · rename_i octets after taken
    split at ran
    · cases ran
      exact ignoredString_go taken
    · cases ran

end Strings

/-! ### Brackets -/

section Brackets

variable {first : Bool} {cursor after behind out : Cursor} {octet : UInt8} {frame : Frame}
  {frames left : List Frame} {depth : Nat} {json : Json}

theorem gives_hasItem_false (ran : (hasItem first).Gives cursor false behind) :
    Begins 0x5D cursor.skipBlanks.rest ∧ cursor.skipBlanks = behind := by
  obtain ⟨_, _, looked, ran⟩ := gives_bind_iff.mp ran
  cases looked
  split at ran
  · cases ran
  · rename_i next
    split at ran
    · rename_i closing
      cases ran
      exact ⟨closing ▸ next, rfl⟩
    · split at ran
      · obtain ⟨_, _, looked, ran⟩ := gives_bind_iff.mp (gives_skip_iff.mp ran)
        split at ran
        all_goals cases ran
      · split at ran
        all_goals cases ran

/-- An item that is not the first is behind a comma. -/
theorem gives_hasItem_true (ran : (hasItem first).Gives cursor true behind) :
    if first then (∃ octet, octet ≠ 0x5D ∧ Begins octet cursor.skipBlanks.rest) ∧
      cursor.skipBlanks = behind
    else Begins 0x2C cursor.skipBlanks.rest ∧ cursor.skipBlanks.advance.skipBlanks = behind := by
  obtain ⟨_, _, looked, ran⟩ := gives_bind_iff.mp ran
  cases looked
  split at ran
  · cases ran
  · rename_i octet next
    split at ran
    · cases ran
    · rename_i notClosing
      split at ran
      · rename_i comma
        rw [if_neg (by simpa using comma.2)]
        obtain ⟨_, _, looked, ran⟩ := gives_bind_iff.mp (gives_skip_iff.mp ran)
        cases looked
        split at ran
        · cases ran
        · cases ran
        · cases ran
          exact ⟨comma.1 ▸ next, rfl⟩
      · split at ran
        · rename_i isFirst
          cases ran
          rw [if_pos isFirst]
          exact ⟨⟨octet, notClosing, next⟩, rfl⟩
        · cases ran

theorem gives_hasKey_false (ran : (hasKey first).Gives cursor false behind) :
    Begins 0x7D cursor.skipBlanks.rest ∧ cursor.skipBlanks = behind := by
  obtain ⟨_, _, looked, ran⟩ := gives_bind_iff.mp ran
  cases looked
  split at ran
  · cases ran
  · rename_i next
    split at ran
    · rename_i closing
      cases ran
      exact ⟨closing ▸ next, rfl⟩
    · split at ran
      · obtain ⟨_, _, looked, ran⟩ := gives_bind_iff.mp (gives_skip_iff.mp ran)
        split at ran
        all_goals cases ran
      · split at ran
        · cases ran
        · split at ran
          all_goals cases ran

/-- A key that is not the first is behind a comma. -/
theorem gives_hasKey_true (ran : (hasKey first).Gives cursor true behind) :
    Begins 0x22 behind.rest ∧ if first then cursor.skipBlanks = behind
      else Begins 0x2C cursor.skipBlanks.rest ∧ cursor.skipBlanks.advance.skipBlanks = behind := by
  obtain ⟨_, _, looked, ran⟩ := gives_bind_iff.mp ran
  cases looked
  split at ran
  · cases ran
  · rename_i octet next
    split at ran
    · cases ran
    · split at ran
      · rename_i comma
        rw [if_neg (by simpa using comma.2)]
        obtain ⟨_, _, looked, ran⟩ := gives_bind_iff.mp (gives_skip_iff.mp ran)
        cases looked
        split at ran
        · cases ran
        · rename_i mark
          cases ran
          exact ⟨mark, comma.1 ▸ next, rfl⟩
        · cases ran
        · cases ran
      · split at ran
        · cases ran
        · rename_i isFirst
          split at ran
          · rename_i mark
            cases ran
            rw [if_pos (by simpa using isFirst)]
            exact ⟨mark ▸ next, rfl⟩
          · cases ran

theorem of_gives_endList (ran : endList.Gives cursor () behind) :
    cursor.skipBlanks.advance = behind := by
  obtain ⟨_, _, looked, ran⟩ := gives_bind_iff.mp ran
  cases looked
  split at ran
  · cases ran
    rfl
  · obtain ⟨_, _, looked, ran⟩ := gives_bind_iff.mp (gives_skip_iff.mp ran)
    split at ran
    all_goals cases ran
  · cases ran
  · cases ran

theorem of_gives_endObject (ran : endObject.Gives cursor () behind) :
    cursor.skipBlanks.advance = behind := by
  obtain ⟨_, _, looked, ran⟩ := gives_bind_iff.mp ran
  cases looked
  split at ran
  · cases ran
    rfl
  · cases ran
  · cases ran
  · cases ran

theorem of_gives_colon (ran : colon.Gives cursor () behind) :
    Begins 0x3A cursor.skipBlanks.rest ∧ cursor.skipBlanks.advance = behind := by
  obtain ⟨_, _, looked, ran⟩ := gives_bind_iff.mp ran
  cases looked
  split at ran
  · rename_i next
    cases ran
    exact ⟨next, rfl⟩
  · cases ran
  · cases ran

/-! ### The machine -/

/-- Behind an item inside brackets, everything up to the end of the outermost one is passed over. -/
def Closes (frames : List Frame) (cursor out : Cursor) : Prop :=
  ∃ left between before, (ignoredClosings true frames).Gives cursor left between ∧
    (ignoredKey left).Gives between () before ∧
    (left = [] ∧ before = out ∨
      left ≠ [] ∧ before.left < cursor.left ∧ ignored.go left before = (.ok (), out))

/-- One item is passed over, and what ends behind it. -/
theorem ignored_go_of_item (item : (ignoredItem frames).Gives cursor left behind)
    (rest : left = [] ∧ behind = out ∨
      left ≠ [] ∧ behind.left < cursor.left ∧ ignored.go left behind = (.ok (), out)) :
    ignored.go frames cursor = (.ok (), out) := by
  rw [ignored.go, item]
  obtain ⟨rfl, rfl⟩ | ⟨some, fewer, ended⟩ := rest
  · rfl
  · cases left with
    | nil => exact absurd rfl some
    | cons frame outer => exact (if_pos fewer).trans ended

/-- A scalar is passed over inside brackets. -/
theorem ignored_go_of_scalar (start : ignoredStart.Gives cursor none behind)
    (fewer : behind.left ≤ cursor.left) (rest : Closes frames behind out) :
    ignored.go frames cursor = (.ok (), out) := by
  obtain ⟨left, between, before, closings, key, rest⟩ := rest
  refine ignored_go_of_item (start.bind (closings.bind (key.bind gives_pure))) ?_
  obtain ended | ⟨some, nearer, ended⟩ := rest
  · exact .inl ended
  · exact .inr ⟨some, Nat.lt_of_lt_of_le nearer fewer, ended⟩

/-- The closing of the innermost bracket, also of one that was just opened. -/
theorem gives_ignoredClosings_closing (comma : Bool)
    (closing : Begins frame.closing cursor.skipBlanks.rest)
    (outer : (ignoredClosings true frames).Gives cursor.skipBlanks.advance left behind) :
    (ignoredClosings comma (frame :: frames)).Gives cursor left behind := by
  refine Gives.peekBlank closing ?_
  dsimp only
  rw [if_neg (by cases frame <;> simp [Frame.closing]), if_pos rfl]
  exact outer

theorem gives_ignoredClosings_comma (comma : Begins 0x2C cursor.skipBlanks.rest) :
    (ignoredClosings true (frame :: frames)).Gives cursor (frame :: frames)
      cursor.skipBlanks.advance :=
  Gives.peekBlank comma rfl

theorem gives_ignoredClosings_open (frames : List Frame) (begins : Begins octet cursor.skipBlanks.rest)
    (notClosing : octet ≠ frame.closing) :
    (ignoredClosings false (frame :: frames)).Gives cursor (frame :: frames) cursor.skipBlanks := by
  refine Gives.peekBlank begins ?_
  dsimp only
  rw [if_neg (by simp), if_neg notClosing, if_neg (by simp)]
  exact gives_pure

/-- What a kind of bracket has to do with the loop that reads it: how the loop ends and goes on, and
that behind what is passed over before an item there is a value. -/
structure Encloses (frame : Frame) (goesOn : Bool → Reader Bool) (item : Cursor → ε → Cursor → Prop)
    (inner : Cursor → Json → Cursor → Prop) : Prop where
  steady : ∀ first, Steady (goesOn first)
  stops : ∀ {first cursor behind}, (goesOn first).Gives cursor false behind →
    Begins frame.closing cursor.skipBlanks.rest ∧ cursor.skipBlanks = behind
  begins : ∀ {cursor behind}, (goesOn true).Gives cursor true behind →
    (∃ octet, octet ≠ frame.closing ∧ Begins octet cursor.skipBlanks.rest) ∧
      cursor.skipBlanks = behind
  follows : ∀ {cursor behind}, (goesOn false).Gives cursor true behind →
    Begins 0x2C cursor.skipBlanks.rest ∧ cursor.skipBlanks.advance.skipBlanks = behind
  enters : ∀ {first cursor start one behind}, (goesOn first).Gives start true cursor.skipBlanks →
    item cursor.skipBlanks one behind → ∀ outer, ∃ before json,
      (ignoredKey (frame :: outer)).Gives cursor () before ∧ before.left ≤ cursor.left ∧
        inner before json behind

theorem encloses_list : Encloses .list hasItem (Spelt depth) (Spelt depth) where
  steady := Steady.hasItem
  stops := gives_hasItem_false
  begins ran := gives_hasItem_true ran
  follows ran := gives_hasItem_true ran
  enters _ stands _ := ⟨_, _, gives_pure, Nat.le_refl _, spelt_skipBlanks_iff.mp stands⟩

theorem encloses_object : Encloses .object hasKey (Entry (Spelt depth)) (Spelt depth) where
  steady := Steady.hasKey
  stops := gives_hasKey_false
  begins ran := by
    obtain ⟨mark, rfl⟩ := gives_hasKey_true ran
    exact ⟨⟨0x22, by decide, mark⟩, rfl⟩
  follows ran := (gives_hasKey_true ran).2
  enters ran stands outer := by
    obtain ⟨mark, -⟩ := gives_hasKey_true ran
    cases stands with
    | intro named marks given =>
        obtain ⟨colon, rfl⟩ := of_gives_colon marks
        have body := Passes.stringBody (gives_skip_iff.mp named)
        refine ⟨_, _, ?_, ?_, given⟩
        · exact Gives.peekBlank mark (gives_skip_iff.mpr (body.bind (Gives.peekBlank colon gives_skip)))
        · exact Nat.le_trans (Cursor.left_advance_le _) (Nat.le_trans (Cursor.left_skipBlanks_le _)
            (Nat.le_trans (Steady.quotedString.left_le named) (Cursor.left_skipBlanks_le _)))

theorem left_advance_lt (begins : Begins octet cursor.rest) : cursor.advance.left < cursor.left := by
  obtain ⟨later, rest⟩ := List.head?_eq_some_iff.mp begins
  exact Cursor.left_advance rest

section Turns

variable {goesOn : Bool → Reader Bool} {item : Cursor → ε → Cursor → Prop} {given : List ε}
  (encloses : Encloses frame goesOn item (Spelt depth))
  (each : ∀ {cursor json behind frames out}, Spelt depth cursor json behind →
    Closes frames behind out → ignored.go frames cursor = (.ok (), out))

include encloses each

/-- The turns that are left of a loop, and what is passed over behind an item. -/
theorem Encloses.closes (turns : Turns goesOn item first cursor given behind) (notFirst : first = false)
    (rest : Closes frames behind.skipBlanks.advance out) : Closes (frame :: frames) cursor out := by
  induction turns with
  | @stop _ cursor _ stops =>
      obtain ⟨closing, rfl⟩ := encloses.stops stops
      rw [Cursor.skipBlanks_skipBlanks] at rest
      obtain ⟨left, between, before, closings, key, rest⟩ := rest
      refine ⟨left, between, before, gives_ignoredClosings_closing true closing closings, key, ?_⟩
      obtain ended | ⟨some, nearer, ended⟩ := rest
      · exact .inl ended
      · have fewer := Nat.lt_trans nearer (left_advance_lt closing)
        exact .inr ⟨some, Nat.lt_of_lt_of_le fewer (Cursor.left_skipBlanks_le cursor), ended⟩
  | @turn _ cursor _ _ _ _ _ goes stands fewer later ih =>
      subst notFirst
      obtain ⟨comma, rfl⟩ := encloses.follows goes
      obtain ⟨before, json, key, nearer, value⟩ := encloses.enters goes stands frames
      refine ⟨_, _, before, gives_ignoredClosings_comma comma, key, .inr ⟨nofun, ?_, ?_⟩⟩
      · have fewer := Nat.lt_of_le_of_lt nearer (left_advance_lt comma)
        exact Nat.lt_of_lt_of_le fewer (Cursor.left_skipBlanks_le cursor)
      · exact each value (ih rfl rest)

/-- All turns of a loop behind the bracket that opens it. -/
theorem Encloses.opens (start : ignoredStart.Gives cursor (some frame) after)
    (opened : after.left < cursor.left) (turns : Turns goesOn item true after given behind)
    (rest : Closes frames behind.skipBlanks.advance out) : ignored.go frames cursor = (.ok (), out) := by
  cases turns with
  | stop stops =>
      obtain ⟨closing, rfl⟩ := encloses.stops stops
      rw [Cursor.skipBlanks_skipBlanks] at rest
      obtain ⟨left, between, before, closings, key, rest⟩ := rest
      have closings := gives_ignoredClosings_closing false closing closings
      refine ignored_go_of_item (start.bind (closings.bind (key.bind gives_pure))) ?_
      obtain ended | ⟨some, nearer, ended⟩ := rest
      · exact .inl ended
      · have taken := left_advance_lt closing
        have blanks := Cursor.left_skipBlanks_le after
        exact .inr ⟨some, by omega, ended⟩
  | turn goes stands fewer later =>
      obtain ⟨⟨octet, notClosing, begins⟩, rfl⟩ := encloses.begins goes
      rw [← Cursor.skipBlanks_skipBlanks] at goes stands
      obtain ⟨before, json, key, nearer, value⟩ := encloses.enters goes stands frames
      have closings := gives_ignoredClosings_open frames begins notClosing
      refine ignored_go_of_item (start.bind (closings.bind (key.bind gives_pure)))
        (.inr ⟨nofun, ?_, each value (encloses.closes each later rfl rest)⟩)
      have blanks := Cursor.left_skipBlanks_le after
      omega

end Turns

/-- Behind a sign there is the number without it, -/
theorem gives_unsigned_of_minus {value : Number} (minus : Begins 0x2D cursor.rest)
    (ran : number.Gives cursor value behind) : (unsigned true).Gives cursor.advance value behind := by
  obtain ⟨_, _, looked, ran⟩ := gives_bind_iff.mp ran
  cases looked
  rw [minus] at ran
  exact ran

/-- and what begins otherwise has no sign. -/
theorem gives_unsigned_of_ne {value : Number} (begins : Begins octet cursor.rest) (notMinus : octet ≠ 0x2D)
    (ran : number.Gives cursor value behind) : (unsigned false).Gives cursor value behind := by
  obtain ⟨_, _, looked, ran⟩ := gives_bind_iff.mp ran
  cases looked
  rw [begins] at ran
  split at ran
  · rename_i minus
    exact absurd (Option.some.inj minus) notMinus
  · exact ran

/-- A number is passed over from its first octet on. -/
theorem gives_ignoredStart_number {value : Number} (begins : Begins octet cursor.skipBlanks.rest)
    (starts : octet = 0x2D ∨ isDigit octet = true)
    (spelt : number.Gives cursor.skipBlanks value behind) :
    ignoredStart.Gives cursor none behind := by
  refine Gives.peekBlank begins ?_
  -- What begins a number begins nothing else.
  split
  case h_1 next => cases next
  case h_8 next =>
    cases next
    split
    · rename_i minus
      subst minus
      have body := Passes.number_unsigned (gives_unsigned_of_minus begins spelt)
      exact gives_skip_iff.mpr (body.bind gives_pure)
    · rename_i notMinus
      rw [if_pos (starts.resolve_left notMinus)]
      have body := Passes.number_unsigned (gives_unsigned_of_ne begins notMinus spelt)
      exact body.bind gives_pure
  all_goals
    rename_i next
    cases next
    exact absurd starts (by decide)

/-- What is spelt is passed over, and so is the rest of the brackets around it. -/
theorem Spelt.ignored_go (spelt : Spelt depth cursor json behind) (rest : Closes frames behind out) :
    ignored.go frames cursor = (.ok (), out) := by
  induction depth generalizing cursor json behind frames out with
  | zero => exact spelt.elim
  | succ depth ih =>
      have fewer := spelt.left_le
      change Stands depth (Spelt depth) cursor.skipBlanks json behind at spelt
      cases spelt with
      | null begins spelt =>
          exact ignored_go_of_scalar (Gives.peekBlank begins (spelt.bind gives_pure)) fewer rest
      | yes begins spelt =>
          exact ignored_go_of_scalar (Gives.peekBlank begins (spelt.bind gives_pure)) fewer rest
      | no begins spelt =>
          exact ignored_go_of_scalar (Gives.peekBlank begins (spelt.bind gives_pure)) fewer rest
      | string begins spelt =>
          have body := Passes.stringBody (gives_skip_iff.mp spelt)
          exact ignored_go_of_scalar (Gives.peekBlank begins (body.bind gives_pure)) fewer rest
      | number begins starts spelt =>
          exact ignored_go_of_scalar (gives_ignoredStart_number begins starts spelt) fewer rest
      | array begins room inside closes =>
          have opened := Nat.lt_of_lt_of_le (left_advance_lt begins) (Cursor.left_skipBlanks_le cursor)
          rw [← of_gives_endList closes] at rest
          exact encloses_list.opens ih (Gives.peekBlank begins rfl) opened inside rest
      | object begins room inside closes =>
          have opened := Nat.lt_of_lt_of_le (left_advance_lt begins) (Cursor.left_skipBlanks_le cursor)
          rw [← of_gives_endObject closes] at rest
          exact encloses_object.opens ih (Gives.peekBlank begins rfl) opened inside rest

/-- A value that is read may as well be passed over. -/
theorem Spelt.gives_ignored (spelt : Spelt depth cursor json behind) :
    ignored.Gives cursor () behind :=
  spelt.ignored_go ⟨[], behind, behind, gives_pure, gives_pure, .inl ⟨rfl, rfl⟩⟩

end Brackets

end ResilientHttp.Json.Reader
