import ResilientHttp.Json.Printer
import ResilientHttp.Proofs.Json.Reading
import ResilientHttp.Proofs.Text.Utf8

/-!
Strings and whole numbers are read as they were written.

* `reads_quotedString` — any text between its marks. `stringOctets_go_char` is the step: one character,
  escaped or not, adds its octets to what was read.
* `reads_number` — a whole number of 64 bits, with or without a sign, in front of anything that no number
  goes on with. `gather_decimal` says that no digit is dropped.
-/

namespace ResilientHttp.Json

/-- The octets of characters. -/
def octetsOfChars (chars : List Char) : Octets := chars.flatMap String.utf8EncodeChar

@[simp] theorem octetsOfChars_nil : octetsOfChars [] = [] := rfl

@[simp] theorem octetsOfChars_cons (char : Char) (later : List Char) :
    octetsOfChars (char :: later) = String.utf8EncodeChar char ++ octetsOfChars later := by
  rw [octetsOfChars, List.flatMap_cons, octetsOfChars]

@[simp] theorem octetsOfChars_append (front back : List Char) :
    octetsOfChars (front ++ back) = octetsOfChars front ++ octetsOfChars back :=
  List.flatMap_append

namespace Reader

/-! ### Looking ahead -/

section Peeking

variable {follows : Octets → Prop} {octet : UInt8} {later : Octets} {result : β}

theorem Reads.peek {next : Option UInt8 → Reader β}
    (read : Reads follows (next (some octet)) (octet :: later) result) :
    Reads follows (Reader.peek >>= next) (octet :: later) result := by
  intro cursor tail allowed rest
  have looked : Reader.peek cursor = (.ok (some octet), cursor) := by
    rw [Reader.peek, rest]
    rfl
  rw [bind_of_ok looked]
  exact read allowed rest

/-- The same where the next octet is part of what follows. -/
theorem Reads.peek_follows {next : Option UInt8 → Reader β}
    (read : ∀ tail, follows tail → Reads (· = tail) (next tail.head?) [] result) :
    Reads follows (Reader.peek >>= next) [] result := by
  intro cursor tail allowed rest
  have looked : Reader.peek cursor = (.ok tail.head?, cursor) := by
    rw [Reader.peek, rest]
    rfl
  rw [bind_of_ok looked]
  exact read tail allowed rfl rest

theorem Reads.peekInString {next : UInt8 → Reader β}
    (read : Reads follows (next octet) (octet :: later) result) :
    Reads follows (Reader.peekInString >>= next) (octet :: later) result := by
  intro cursor tail allowed rest
  have looked : Reader.peekInString cursor = (.ok octet, cursor) := by
    have ahead : Reader.peek cursor = (.ok (some octet), cursor) := by
      rw [Reader.peek, rest]
      rfl
    rw [Reader.peekInString, bind_of_ok ahead]
    rfl
  rw [bind_of_ok looked]
  exact read allowed rest

end Peeking

/-! ### Strings -/

section Strings

variable {read tail : Octets} {cursor : Cursor}

theorem hexValue?_digit {value : Nat} (h : value < 16) :
    hexValue? (UInt8.ofNat (Hex.digit value).toNat) = some value := by
  revert value
  decide

theorem utf8EncodeChar_digit {value : Nat} (h : value < 16) :
    String.utf8EncodeChar (Hex.digit value) = [UInt8.ofNat (Hex.digit value).toNat] := by
  revert value
  decide

theorem reads_hexEscape {a b c d : UInt8} {first second third fourth : Nat}
    (ha : hexValue? a = some first) (hb : hexValue? b = some second) (hc : hexValue? c = some third)
    (hd : hexValue? d = some fourth) :
    Reads Anything hexEscape [a, b, c, d] (((first * 16 + second) * 16 + third) * 16 + fourth) := by
  intro cursor tail _ rest
  refine ⟨cursor.advance.advance.advance.advance, ?_, ?_⟩
  · simp only [hexEscape, rest, List.cons_append, ha, hb, hc, hd]
  · exact Cursor.rest_advance (Cursor.rest_advance (Cursor.rest_advance (Cursor.rest_advance rest)))

/-- A control that has no escape of its own is written as its number. -/
theorem reads_escape_control {char : Char} (control : char.toNat < 0x20) :
    Reads Anything escape
      [0x75, 0x30, 0x30, UInt8.ofNat (Hex.digit (char.toNat / 16)).toNat,
        UInt8.ofNat (Hex.digit (char.toNat % 16)).toNat] (String.utf8EncodeChar char) := by
  refine Reads.peekInString (Reads.skip ?_)
  have zero : hexValue? 0x30 = some 0 := rfl
  have high : char.toNat / 16 < 16 := by omega
  have low : char.toNat % 16 < 16 := by omega
  have number := reads_hexEscape zero zero (hexValue?_digit high) (hexValue?_digit low)
  have whole : ((0 * 16 + 0) * 16 + char.toNat / 16) * 16 + char.toNat % 16 = char.toNat := by omega
  rw [whole] at number
  rw [← List.append_nil [_, _, _, _]]
  refine number.bind ?_ fun _ _ => trivial
  rw [if_neg (by omega), if_neg (by omega), octetsOf, Char.ofNat_toNat]
  exact Reads.pure

theorem stringOctets_go_plain {octet : UInt8} (rest : cursor.rest = octet :: tail)
    (notMark : octet ≠ 0x22) (notEscape : octet ≠ 0x5C) (notControl : ¬ octet < 0x20) :
    stringOctets.go read cursor = stringOctets.go (octet :: read) cursor.advance := by
  rw [stringOctets.go]
  split
  · simp_all
  · rename_i next _ same
    obtain ⟨rfl, -⟩ := List.cons.inj (same.symm.trans rest)
    rw [if_neg notMark, if_neg notEscape, if_neg notControl]

theorem stringOctets_go_escape {written resolved : Octets} (rest : cursor.rest = 0x5C :: (written ++ tail))
    (reads : Reads Anything escape written resolved) :
    ∃ behind : Cursor, stringOctets.go read cursor = stringOctets.go (resolved.reverse ++ read) behind ∧
      behind.rest = tail := by
  obtain ⟨behind, ran, reached⟩ := reads trivial (Cursor.rest_advance rest)
  have fewer : behind.left < cursor.left :=
    Cursor.left_lt_of_rest (rest.trans (List.cons_append ..).symm) (by simp) reached
  refine ⟨behind, ?_, reached⟩
  rw [stringOctets.go]
  split
  · simp_all
  · rename_i next _ same
    obtain ⟨rfl, -⟩ := List.cons.inj (same.symm.trans rest)
    rw [if_neg (by decide), if_pos rfl, ran]
    dsimp only
    rw [if_pos fewer]

/-- Octets that need no escape are read as themselves. -/
theorem stringOctets_go_octets {octets : Octets} (read : Octets) (rest : cursor.rest = octets ++ tail)
    (plain : ∀ octet ∈ octets, octet ≠ 0x22 ∧ octet ≠ 0x5C ∧ ¬ octet < 0x20) :
    ∃ behind : Cursor, stringOctets.go read cursor = stringOctets.go (octets.reverse ++ read) behind ∧
      behind.rest = tail := by
  induction octets generalizing read cursor with
  | nil => exact ⟨cursor, rfl, rest⟩
  | cons octet later ih =>
      obtain ⟨⟨notMark, notEscape, notControl⟩, plain⟩ := List.forall_mem_cons.mp plain
      obtain ⟨behind, ran, reached⟩ := ih (octet :: read) (Cursor.rest_advance rest) plain
      refine ⟨behind, ?_, reached⟩
      rw [stringOctets_go_plain rest notMark notEscape notControl, ran, List.reverse_cons,
        List.append_assoc]
      rfl

/-- Octets of a character that is written as itself need no escape. -/
theorem plain_of_mem_utf8EncodeChar {char : Char} (notMark : char ≠ '\x22') (notEscape : char ≠ '\\')
    (notControl : ¬ char.toNat < 0x20) :
    ∀ octet ∈ String.utf8EncodeChar char, octet ≠ 0x22 ∧ octet ≠ 0x5C ∧ ¬ octet < 0x20 := by
  intro octet mem
  by_cases ascii : char.toNat < 0x80
  · rw [Utf8.utf8EncodeChar_of_ascii ascii, List.mem_singleton] at mem
    subst mem
    have number : (UInt8.ofNat char.toNat).toNat = char.toNat := Utf8.toNat_ofNat (by omega)
    refine ⟨?_, ?_, ?_⟩
    · intro same
      refine notMark (Char.toNat_inj.mp ?_)
      rw [← number, same]
      rfl
    · intro same
      refine notEscape (Char.toNat_inj.mp ?_)
      rw [← number, same]
      rfl
    · rw [UInt8.lt_iff_toNat_lt, number]
      exact notControl
  · have above := UInt8.le_iff_toNat_le.mp (Utf8.le_of_mem_utf8EncodeChar (by omega) octet mem)
    have high : 0x80 ≤ octet.toNat := above
    refine ⟨?_, ?_, ?_⟩
    · rintro rfl
      exact absurd high (by decide)
    · rintro rfl
      exact absurd high (by decide)
    · rw [UInt8.lt_iff_toNat_lt]
      exact Nat.not_lt.mpr (Nat.le_trans (by decide) high)

/-- The characters with an escape of two characters. -/
def shortEscapes : List Char := ['\x22', '\\', '\x08', '\t', '\n', '\x0c', '\r']

/-- The escape of any other control is its number. -/
theorem escapeChar_of_long {char : Char} (long : char ∉ shortEscapes) :
    escapeChar char = if char.toNat < 0x20 then
      ['\\', 'u', '0', '0', Hex.digit (char.toNat / 16), Hex.digit (char.toNat % 16)] else [char] := by
  have others : ∀ other ∈ shortEscapes, char.toNat ≠ other.toNat := by
    intro other mem same
    exact long (Char.toNat_inj.mp same ▸ mem)
  simp only [shortEscapes, List.forall_mem_cons, Char.reduceToNat] at others
  obtain ⟨mark, escape, back, tab, line, feed, ret, -⟩ := others
  rw [escapeChar, if_neg, if_neg, if_neg back, if_neg tab, if_neg line, if_neg feed, if_neg ret]
  · rintro rfl
    exact escape rfl
  · rintro rfl
    exact mark rfl

/-- One character adds its octets to what was read. -/
theorem stringOctets_go_char {char : Char} (read : Octets)
    (rest : cursor.rest = octetsOfChars (escapeChar char) ++ tail) :
    ∃ behind : Cursor,
      stringOctets.go read cursor = stringOctets.go ((String.utf8EncodeChar char).reverse ++ read) behind ∧
        behind.rest = tail := by
  by_cases short : char ∈ shortEscapes
  · have written : ∃ mark, octetsOfChars (escapeChar char) = [0x5C, mark] ∧
        Reads Anything escape [mark] (String.utf8EncodeChar char) := by
      simp only [shortEscapes, List.mem_cons, List.not_mem_nil, or_false] at short
      rcases short with rfl | rfl | rfl | rfl | rfl | rfl | rfl
      all_goals exact ⟨_, rfl, Reads.peekInString (Reads.skip Reads.pure)⟩
    obtain ⟨mark, written, reads⟩ := written
    rw [written] at rest
    exact stringOctets_go_escape (rest.trans rfl) reads
  rw [escapeChar_of_long short] at rest
  by_cases control : char.toNat < 0x20
  · rw [if_pos control] at rest
    have high : char.toNat / 16 < 16 := by omega
    have low : char.toNat % 16 < 16 := by omega
    simp only [octetsOfChars_cons, utf8EncodeChar_digit high, utf8EncodeChar_digit low] at rest
    exact stringOctets_go_escape rest (reads_escape_control control)
  · rw [if_neg control, octetsOfChars_cons, octetsOfChars_nil, List.append_nil] at rest
    refine stringOctets_go_octets read rest (plain_of_mem_utf8EncodeChar ?_ ?_ control)
    · rintro rfl
      exact short (by decide)
    · rintro rfl
      exact short (by decide)

theorem stringOctets_go_chars {chars : List Char} (read : Octets)
    (rest : cursor.rest = octetsOfChars (chars.flatMap escapeChar) ++ 0x22 :: tail) :
    ∃ behind : Cursor,
      stringOctets.go read cursor = (.ok (read.reverse ++ octetsOfChars chars), behind) ∧
        behind.rest = tail := by
  induction chars generalizing read cursor with
  | nil =>
      refine ⟨cursor.advance, ?_, Cursor.rest_advance rest⟩
      rw [stringOctets.go]
      split
      · simp_all
      · rename_i next _ same
        obtain ⟨rfl, -⟩ := List.cons.inj (same.symm.trans rest)
        rw [if_pos rfl, octetsOfChars_nil, List.append_nil]
  | cons char later ih =>
      rw [List.flatMap_cons, octetsOfChars_append, List.append_assoc] at rest
      obtain ⟨after, stepped, here⟩ := stringOctets_go_char read rest
      obtain ⟨behind, ran, reached⟩ :=
        ih ((String.utf8EncodeChar char).reverse ++ read) here
      refine ⟨behind, ?_, reached⟩
      rw [stepped, ran, octetsOfChars_cons]
      simp

/-- Any text between its marks is read back. -/
theorem reads_quotedString (text : String) :
    Reads Anything quotedString (octetsOfChars (printString text)) text := by
  have written : octetsOfChars (printString text) =
      0x22 :: (octetsOfChars (text.toList.flatMap escapeChar) ++ [0x22]) := by
    rw [printString, octetsOfChars_cons, octetsOfChars_append]
    rfl
  rw [written]
  refine Reads.skip fun cursor tail _ rest => ?_
  rw [List.append_assoc] at rest
  obtain ⟨behind, ran, reached⟩ := stringOctets_go_chars [] rest
  refine ⟨behind, ?_, reached⟩
  have decoded : Utf8.decode? (octetsOfChars text.toList) = some text := Utf8.decode?_encode text
  simp only [stringBody, stringOctets, ran, List.reverse_nil, List.nil_append, decoded]

end Strings

/-! ### Whole numbers -/

end Reader

/-- The octets of a number in decimal. -/
def decimal (n : Nat) : Octets := octetsOfChars (Nat.toDigits 10 n)

section Decimal

variable {n : Nat}

theorem utf8EncodeChar_digitChar (h : n < 10) :
    String.utf8EncodeChar n.digitChar = [UInt8.ofNat (0x30 + n)] := by
  revert n
  decide

theorem decimal_of_lt (h : n < 10) : decimal n = [UInt8.ofNat (0x30 + n)] := by
  rw [decimal, Nat.toDigits_of_lt_base h, octetsOfChars_cons, utf8EncodeChar_digitChar h]
  rfl

/-- The last digit comes off the end. -/
theorem decimal_of_le (h : 10 ≤ n) :
    decimal n = decimal (n / 10) ++ [UInt8.ofNat (0x30 + n % 10)] := by
  rw [decimal, Nat.toDigits_of_base_le (by decide) h, octetsOfChars_append, octetsOfChars_cons,
    utf8EncodeChar_digitChar (Nat.mod_lt n (by decide)), decimal]
  rfl

theorem decimal_ne_nil : decimal n ≠ [] := by
  rcases Nat.lt_or_ge n 10 with small | large
  · simp [decimal_of_lt small]
  · simp [decimal_of_le large]

theorem toNat_digit (h : n < 10) : (UInt8.ofNat (0x30 + n)).toNat = 0x30 + n :=
  Utf8.toNat_ofNat (by omega)

theorem isDigit_digit (h : n < 10) : isDigit (UInt8.ofNat (0x30 + n)) = true := by
  revert n
  decide

theorem isDigit_of_mem_decimal : ∀ octet ∈ decimal n, isDigit octet = true := by
  induction n using Nat.base_induction 10 (by decide) with
  | single n small =>
      rw [decimal_of_lt small]
      exact List.forall_mem_singleton.mpr (isDigit_digit small)
  | digit n last small positive ih =>
      rw [decimal_of_le (by omega), show (10 * n + last) / 10 = n by omega,
        show (10 * n + last) % 10 = last by omega]
      exact List.forall_mem_append.mpr ⟨ih, List.forall_mem_singleton.mpr (isDigit_digit small)⟩

/-- A number above zero has a first digit above zero. -/
theorem head?_decimal (positive : 0 < n) : ∃ octet ∈ (decimal n).head?, octet ≠ 0x30 := by
  induction n using Nat.base_induction 10 (by decide) with
  | single n small =>
      rw [decimal_of_lt small]
      refine ⟨_, rfl, fun same => ?_⟩
      have number := toNat_digit small
      rw [same] at number
      have : (0x30 : UInt8).toNat = 0x30 := rfl
      omega
  | digit n last small above ih =>
      obtain ⟨octet, first, notZero⟩ := ih above
      rw [decimal_of_le (by omega), show (10 * n + last) / 10 = n by omega]
      exact ⟨octet, by simp [Option.mem_def.mp first], notZero⟩

/-- Digits behind others are taken where those all were. -/
theorem gather_append {value total : Nat} {front : Octets} (back : Octets)
    (all : gather value front = (total, front.length)) :
    gather value (front ++ back) = ((gather total back).1, front.length + (gather total back).2) := by
  induction front generalizing value with
  | nil =>
      cases all
      simp
  | cons digit later ih =>
      rw [gather] at all
      split at all
      · cases all
      · rename_i room
        obtain ⟨same, counted⟩ := Prod.mk.inj all
        have all : gather (value * 10 + (digit.toNat - 0x30)) later = (total, later.length) :=
          Prod.ext same (Nat.succ.inj counted)
        rw [List.cons_append, gather, if_neg room, ih all, List.length_cons]
        simp only [Prod.mk.injEq, true_and]
        omega

/-- No digit of a number of 64 bits is dropped. -/
theorem gather_decimal (fits : n ≤ maxSignificand) :
    gather 0 (decimal n) = (n, (decimal n).length) := by
  induction n using Nat.base_induction 10 (by decide) with
  | single n small =>
      have number := toNat_digit small
      have value : 0 * 10 + ((UInt8.ofNat (0x30 + n)).toNat - 0x30) = n := by omega
      rw [decimal_of_lt small, gather, value, if_neg (by omega)]
      rfl
  | digit n last small above ih =>
      have number := toNat_digit small
      have value : n * 10 + ((UInt8.ofNat (0x30 + last)).toNat - 0x30) = 10 * n + last := by omega
      rw [decimal_of_le (by omega), show (10 * n + last) / 10 = n by omega,
        show (10 * n + last) % 10 = last by omega, gather_append _ (ih (by omega)), gather, value,
        if_neg (by omega), List.length_append]
      rfl

end Decimal

namespace Reader

section Numbers

variable {n : Nat}

theorem reads_digits {read : Octets} (all : ∀ octet ∈ read, isDigit octet = true) :
    Reads Ends digits read read := by
  intro cursor tail ends rest
  have taken : cursor.rest.takeWhile isDigit = read := by
    rw [rest, List.takeWhile_append_of_pos all]
    cases tail with
    | nil => simp
    | cons octet later =>
        rw [List.takeWhile_cons_of_neg (by simp [(ends octet rfl).1]), List.append_nil]
  refine ⟨cursor.skip read.length, ?_, Cursor.rest_skip_length rest⟩
  rw [digits, taken]

/-- A number of 64 bits behind its sign. -/
theorem reads_unsigned (negative : Bool) (fits : n ≤ maxSignificand) :
    Reads Ends (unsigned negative) (decimal n) (wholeNumber negative n) := by
  by_cases zero : n = 0
  · subst zero
    refine Reads.peek (Reads.skip (Reads.peek_follows fun tail ends => ?_))
    cases tail with
    | nil => exact Reads.pure
    | cons octet later =>
        obtain ⟨noDigit, noPoint, noSmallE, noGreatE⟩ := ends octet rfl
        dsimp only [List.head?_cons]
        rw [if_neg (by simp [noDigit]), if_neg noPoint, if_neg (by simp [noSmallE, noGreatE])]
        exact Reads.pure
  · obtain ⟨octet, first, notZero⟩ := head?_decimal (Nat.pos_of_ne_zero zero)
    obtain ⟨later, written⟩ := List.head?_eq_some_iff.mp first
    have all := isDigit_of_mem_decimal (n := n)
    have read := reads_digits all
    have gathered := gather_decimal fits
    generalize decimal n = given at *
    subst written
    refine Reads.peek ?_
    dsimp only
    rw [if_neg notZero, if_pos (all octet List.mem_cons_self)]
    rw [← List.append_nil (octet :: later)]
    refine read.bind ?_ fun _ ends => ends
    rw [gathered]
    dsimp only
    refine Reads.peek_follows fun tail ends => ?_
    split
    · rename_i point
      exact absurd rfl (ends _ point).2.1
    · rename_i smallE
      exact absurd rfl (ends _ smallE).2.2.1
    · rename_i greatE
      exact absurd rfl (ends _ greatE).2.2.2
    · rw [if_pos (Nat.sub_self _)]
      exact Reads.pure

theorem octetsOfChars_ofNat (n : Nat) :
    octetsOfChars (Number.print (.whole (.ofNat n))) = decimal n := by
  change octetsOfChars (Int.repr (.ofNat n)).toList = decimal n
  rw [Int.repr, Nat.toList_repr, decimal]

theorem octetsOfChars_negSucc (n : Nat) :
    octetsOfChars (Number.print (.whole (.negSucc n))) = 0x2D :: decimal (n + 1) := by
  change octetsOfChars (Int.repr (.negSucc n)).toList = 0x2D :: decimal (n + 1)
  rw [Int.repr, String.toList_append, Nat.toList_repr, octetsOfChars_append, decimal]
  rfl

/-- What a number begins with is no blank and closes no list. -/
theorem notBlank_of_number {octet : UInt8} (first : octet = 0x2D ∨ isDigit octet = true) :
    Cursor.isBlank octet = false ∧ octet ≠ 0x5D := by
  have others : ∀ other ∈ ([0x20, 0x09, 0x0A, 0x0D, 0x5D] : Octets), octet ≠ other := by
    have none : ∀ other ∈ ([0x20, 0x09, 0x0A, 0x0D, 0x5D] : Octets),
        ¬ (other = 0x2D ∨ isDigit other = true) := by simp [isDigit]
    rintro other mem rfl
    exact none octet mem first
  simp only [List.forall_mem_cons] at others
  obtain ⟨space, tab, line, ret, closing, -⟩ := others
  exact ⟨by simp [Cursor.isBlank, space, tab, line, ret], closing⟩

/-- A number begins with a digit or a minus sign. -/
theorem exists_cons_number (value : Int) : ∃ octet later,
    octetsOfChars (Number.print (.whole value)) = octet :: later ∧
      (octet = 0x2D ∨ isDigit octet = true) := by
  cases value with
  | ofNat n =>
      obtain ⟨octet, later, written⟩ := List.exists_cons_of_ne_nil (decimal_ne_nil (n := n))
      have all := isDigit_of_mem_decimal (n := n)
      rw [written] at all
      exact ⟨octet, later, (octetsOfChars_ofNat n).trans written, .inr (all octet List.mem_cons_self)⟩
  | negSucc n => exact ⟨0x2D, decimal (n + 1), octetsOfChars_negSucc n, .inl rfl⟩

/-- A whole number of 64 bits, with or without a sign, is read back. -/
theorem reads_number {value : Int} (low : -9223372036854775808 ≤ value)
    (high : value ≤ 18446744073709551615) :
    Reads Ends number (octetsOfChars (Number.print (.whole value))) (.whole value) := by
  cases value with
  | ofNat n =>
      have high : (n : Int) ≤ 18446744073709551615 := high
      have read := reads_unsigned (n := n) false (by rw [maxSignificand]; omega)
      have all := isDigit_of_mem_decimal (n := n)
      obtain ⟨octet, later, written⟩ := List.exists_cons_of_ne_nil (decimal_ne_nil (n := n))
      rw [octetsOfChars_ofNat]
      rw [written] at read all ⊢
      have digit := all octet List.mem_cons_self
      refine Reads.peek ?_
      split
      · rename_i minus
        cases minus
        exact absurd digit (by decide)
      · exact read
  | negSucc n =>
      have low : -9223372036854775808 ≤ -(n + 1 : Int) := low
      have read := reads_unsigned (n := n + 1) true (by rw [maxSignificand]; omega)
      have whole : wholeNumber true (n + 1) = .whole (.negSucc n) := by
        rw [wholeNumber, if_neg (by decide), if_neg (by omega)]
        rfl
      rw [octetsOfChars_negSucc]
      exact Reads.peek (Reads.skip (whole ▸ read))

end Numbers

end Reader
end ResilientHttp.Json
